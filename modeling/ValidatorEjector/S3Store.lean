/-
**`services/s3-store` — the files of a bucket.**

A bucket is listed page by page. The flag that the list goes on, and the token of the next page, are set in
one branch only, when a page says that there are more; no page takes the flag back.

* `S3Client` — the two commands of the AWS client.
* `bucketOf`, `listTurn`, `download`, `read` — the read.
* `Bucket`, `Serves` — a bucket of some pages, and a client that serves it.
* `ReadsAll` — the read ends, with one file for every key.
* `listTurn_page` — a turn of the loop; `listing_endless`, `read_endless` — the loop over several pages.
* `readsAll_iff` — just the buckets of one page are read.
-/

import ValidatorEjector.Library.DoWhile
import ValidatorEjector.Outside

namespace ValidatorEjector

open Library.DoWhile Library.Program

/-! ### The store -/

/-- A response to `ListObjectsV2Command`, with the keys of its items. -/
structure ListObjectsV2Output where
  Contents : Option (List (Option String))
  IsTruncated : Option Bool
  NextContinuationToken : Option String

/-- **The AWS client.** A listing is asked for by bucket and token, an object by bucket and key; its body, if
there is one, is read as a text or fails. -/
structure S3Client where
  listObjectsV2 : String → Option String → Except Failure ListObjectsV2Output
  getObject : String → String → Except Failure (Option (Except Failure String))

/-- What the loop over the pages changes. -/
structure Listing where
  fileNames : List String
  isTruncated : Bool
  ContinuationToken : Option String

/-- The group `Bucket` of a match of `/^[sS]3:\/\/(?<Bucket>.+)/`. -/
def bucketOf (uri : String) : Option String :=
  match uri.toList with
  | s :: '3' :: ':' :: '/' :: '/' :: rest =>
    let name := rest.takeWhile fun c => c ∉ ['\n', '\r', '\u2028', '\u2029']
    if (s = 's' ∨ s = 'S') ∧ name ≠ [] then some (String.ofList name) else none
  | _ => none

namespace S3Client

variable (client : S3Client)

/-- The key of an item. -/
def keyOf (key : Option String) : Except Failure String :=
  match key with
  | none => .error (.error "Key not found in an AWS S3 object in bucket.")
  | some key =>
    if key = "" then .error (.error "Key not found in an AWS S3 object in bucket.") else .ok key

/-- One turn of the loop over the pages. -/
def listTurn (bucketName : String) (s : Listing) : Except Failure Listing := do
  let output ← client.listObjectsV2 bucketName s.ContinuationToken
  match output.Contents with
  | none => .error (.error "No contents in AWS S3 response.")
  | some contents =>
    let keys ← contents.mapM keyOf
    let fileNames := s.fileNames ++ keys
    if output.IsTruncated = some true then
      pure { fileNames, isTruncated := true, ContinuationToken := output.NextContinuationToken }
    else pure { s with fileNames }

/-- The file of a key. -/
def download (bucketName fileName : String) : Except Failure MessageFile :=
  match client.getObject bucketName fileName with
  | .ok (some (.ok stringified)) => .ok { filename := fileName, content := stringified }
  | _ => .error (.error "Unable to read file from AWS S3.")

/-- `read`, with a bound on the listing requests; `none` when the list has not ended by then. -/
def read (requests : Nat) (uri : String) : Option (Except Failure (List MessageFile)) :=
  match bucketOf uri with
  | none => some (.error (.error "Not a valid AWS S3 bucket uri."))
  | some bucketName =>
    match doWhile (client.listTurn bucketName) Listing.isTruncated requests ⟨[], false, none⟩ with
    | none => none
    | some (.error _) => some (.error (.error "Unable to list bucket files from AWS S3."))
    | some (.ok listing) => some (listing.fileNames.mapM (client.download bucketName))

end S3Client

/-! ### Buckets -/

/-- **A bucket**: its keys in pages, none of them empty, and the content under each key. -/
structure Bucket where
  name : String
  pages : List (List String)
  content : String → String
  some_page : pages ≠ []
  filled : ∀ page ∈ pages, page ≠ []
  named : ∀ key ∈ pages.flatten, key ≠ ""
  distinct : pages.flatten.Nodup

namespace Bucket

variable (bucket : Bucket) (token : Nat → String)

/-- The token that a page is asked for with: none for the first. -/
def tokenOf (k : Nat) : Option String := if k = 0 then none else some (token k)

/-- The response that lists a page. -/
def output (k : Nat) (page : List String) : ListObjectsV2Output :=
  let more := k + 1 < bucket.pages.length
  { Contents := some (page.map some)
    IsTruncated := some (decide more)
    NextContinuationToken := if more then tokenOf token (k + 1) else none }

/-- The files of the bucket, one for every key, in the order of the pages. -/
def files : List MessageFile :=
  bucket.pages.flatten.map fun key => { filename := key, content := bucket.content key }

end Bucket

/-- **A client serves a bucket**: page `k` under the token of `k`, and every object. -/
structure S3Client.Serves (client : S3Client) (bucket : Bucket) (token : Nat → String) : Prop where
  page : ∀ k page, bucket.pages[k]? = some page →
    client.listObjectsV2 bucket.name (Bucket.tokenOf token k) = .ok (bucket.output token k page)
  object : ∀ key ∈ bucket.pages.flatten,
    client.getObject bucket.name key = .ok (some (.ok (bucket.content key)))

/-- **The read of a bucket is complete**: within some number of listing requests it ends, with one file for
every key in the order of the pages. -/
def S3Client.ReadsAll (client : S3Client) (bucket : Bucket) (uri : String) : Prop :=
  ∃ limit, ∀ requests, limit ≤ requests → client.read requests uri = some (.ok bucket.files)

namespace S3Client

variable {client : S3Client} {bucket : Bucket} {token : Nat → String} {uri : String}

/-- **A turn of the loop** adds the keys of the page. A page with others after it sets the flag and the token,
and the last page leaves both as they are. -/
theorem listTurn_page (serves : client.Serves bucket token) {k : Nat} {page : List String}
    (here : bucket.pages[k]? = some page) {s : Listing}
    (asked : s.ContinuationToken = Bucket.tokenOf token k) :
    client.listTurn bucket.name s = .ok
      (if k + 1 < bucket.pages.length then
        ⟨s.fileNames ++ page, true, Bucket.tokenOf token (k + 1)⟩
      else { s with fileNames := s.fileNames ++ page }) := by
  have named : ∀ key ∈ page, key ≠ "" := fun key inside =>
    bucket.named key (List.mem_flatten.mpr ⟨page, List.mem_of_getElem? here, inside⟩)
  unfold listTurn
  rw [asked, serves.page k page here]
  have keys : (page.map some).mapM keyOf = .ok page := by
    have each : ∀ key ∈ page, (keyOf ∘ some) key = .ok (id key) := fun key inside =>
        if_neg (named key inside)
    rw [List.mapM_map, mapM_of_ok each, List.map_id]
  show ((page.map some).mapM keyOf >>= _) = _
  rw [keys]
  by_cases more : k + 1 < bucket.pages.length
  · simp [Bucket.output, more, bind, Except.bind, pure, Except.pure]
  · simp [Bucket.output, more, bind, Except.bind, pure, Except.pure]

/-- **The list of several pages never ends**: the flag is set by the first page, and stays. -/
theorem listing_endless (serves : client.Serves bucket token) (several : 1 < bucket.pages.length)
    (requests : Nat) :
    doWhile (client.listTurn bucket.name) Listing.isTruncated requests ⟨[], false, none⟩ = none := by
  -- a page is asked for, and either others follow it or the flag is set
  refine doWhile_endless (I := fun s => ∃ k, k < bucket.pages.length ∧
    s.ContinuationToken = Bucket.tokenOf token k ∧ (k + 1 < bucket.pages.length ∨ s.isTruncated = true))
    ?_ requests _ ⟨0, by omega, rfl, .inl several⟩
  rintro s ⟨k, bound, asked, goesOn⟩
  refine ⟨_, listTurn_page serves (List.getElem?_eq_getElem bound) asked, ?_⟩
  by_cases more : k + 1 < bucket.pages.length
  · rw [if_pos more]
    exact ⟨rfl, k + 1, more, rfl, .inr rfl⟩
  · have set : s.isTruncated = true := goesOn.resolve_left more
    rw [if_neg more]
    exact ⟨set, k, bound, asked, .inr set⟩

/-- A bucket of several pages is listed for ever. -/
theorem read_endless (serves : client.Serves bucket token) (address : bucketOf uri = some bucket.name)
    (several : 1 < bucket.pages.length) (requests : Nat) : client.read requests uri = none := by
  unfold S3Client.read
  rw [address]
  dsimp only
  rw [listing_endless serves several]

/-- **Just the buckets of one page are read.** -/
theorem readsAll_iff (serves : client.Serves bucket token) (address : bucketOf uri = some bucket.name) :
    client.ReadsAll bucket uri ↔ bucket.pages.length = 1 := by
  have filled : 0 < bucket.pages.length := List.length_pos_iff.mpr bucket.some_page
  constructor
  · rintro ⟨limit, reads⟩
    by_contra other
    have ends := reads limit le_rfl
    rw [read_endless serves address (by omega)] at ends
    cases ends
  · intro single
    obtain ⟨page, pages⟩ := List.length_eq_one_iff.mp single
    have here : bucket.pages[0]? = some page := by rw [pages]; rfl
    have all : page = bucket.pages.flatten := by
      rw [pages, List.flatten_cons, List.flatten_nil, List.append_nil]
    have turn := listTurn_page serves here (s := ⟨[], false, none⟩) rfl
    rw [single, if_neg (by decide), all] at turn
    have bodies : bucket.pages.flatten.mapM (client.download bucket.name) = .ok bucket.files := by
      refine mapM_of_ok fun key inside => ?_
      unfold download
      rw [serves.object key inside]
    refine ⟨1, fun requests enough => ?_⟩
    unfold S3Client.read
    rw [address]
    dsimp only
    rw [doWhile_one turn rfl enough]
    exact congrArg some bodies

/-! ### Samples -/

section Samples

/-- The token of a page, as long as its number. -/
def tally (k : Nat) : String := String.ofList (List.replicate k '+')

/-- A bucket of files that hold an empty object. -/
def paged (pages : List (List String)) (some_page : pages ≠ []) (filled : ∀ page ∈ pages, page ≠ [])
    (named : ∀ key ∈ pages.flatten, key ≠ "") (distinct : pages.flatten.Nodup) : Bucket :=
  { name := "exits", pages, content := fun _ => "\x7b\x7d", some_page, filled, named, distinct }

/-- A client of one bucket: the token says which page is asked for. -/
def serving (bucket : Bucket) : S3Client where
  listObjectsV2 _ asked :=
    let k := (asked.map String.length).getD 0
    .ok (bucket.output tally k (bucket.pages[k]?.getD []))
  getObject _ key := .ok (some (.ok (bucket.content key)))

theorem serves_serving (bucket : Bucket) : (serving bucket).Serves bucket tally where
  page k page here := by
    have asked : ((Bucket.tokenOf tally k).map String.length).getD 0 = k := by
      unfold Bucket.tokenOf tally
      split_ifs with first
      · exact first.symm
      · simp
    unfold serving
    dsimp only
    rw [asked, here]
    rfl
  object _ _ := rfl

/-- A bucket of one page. -/
def onePage : Bucket := paged [["1.json", "2.json"]] (by decide) (by decide) (by decide) (by decide)

/-- A bucket of two pages. -/
def twoPages : Bucket := paged [["1.json"], ["2.json"]] (by decide) (by decide) (by decide) (by decide)

theorem readsAll_onePage : (serving onePage).ReadsAll onePage "s3://exits" :=
  (readsAll_iff (serves_serving onePage) (by decide)).mpr rfl

/-- **The two pages are listed for ever.** -/
theorem not_readsAll_twoPages : ¬ (serving twoPages).ReadsAll twoPages "s3://exits" := by
  rintro ⟨limit, reads⟩
  have ends := reads limit le_rfl
  rw [read_endless (serves_serving twoPages) (by decide) (by decide)] at ends
  cases ends

end Samples

end S3Client

end ValidatorEjector
