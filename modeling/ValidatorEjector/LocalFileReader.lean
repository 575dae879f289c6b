/-
**`services/local-file-reader` — the files of a folder.**

* `Disk.readFilesFromFolder` — the JSON files of a directory.
* `Disk.Holds` — a directory with some files; `readFilesFromFolder_holds` — its JSON files are read, in order.
-/

import ValidatorEjector.Outside

namespace ValidatorEjector

open Library.Program

/-- **The file system**, as the reader asks it. -/
structure Disk where
  /-- `(await stat(path)).isDirectory()`; `none` when it throws. -/
  isDirectory : String → Option Bool
  readdir : String → Except Failure (List String)
  /-- `(await readFile(path)).toString()`. -/
  readFile : String → Except Failure String

/-- `fileName.endsWith('.json')`. -/
def isJson (fileName : String) : Bool := ".json".toList <:+ fileName.toList

namespace Disk

variable (disk : Disk)

def dirExists (path : String) : Bool := (disk.isDirectory path).getD false

/-- The file of a name. -/
def fileAt (path fileName : String) : Except Failure MessageFile := do
  let file ← disk.readFile s!"{path}/{fileName}"
  pure { filename := fileName, content := file }

/-- `readFilesFromFolder`; `none` when the process exits. -/
def readFilesFromFolder (path : String) : Option (Except Failure (List MessageFile)) :=
  if disk.dirExists path then some do
    let folder ← disk.readdir path
    (folder.filter isJson).mapM (disk.fileAt path)
  else none

/-- The directory has these files, listed in this order. -/
structure Holds (path : String) (files : List MessageFile) : Prop where
  directory : disk.isDirectory path = some true
  listed : disk.readdir path = .ok (files.map MessageFile.filename)
  contents : ∀ file ∈ files, disk.readFile s!"{path}/{file.filename}" = .ok file.content

variable {disk} {path : String}

theorem mapM_fileAt : ∀ {files : List MessageFile},
    (∀ file ∈ files, disk.readFile s!"{path}/{file.filename}" = .ok file.content) →
      (files.map MessageFile.filename).mapM (disk.fileAt path) = .ok files
  | [], _ => rfl
  | file :: files, contents => by
    obtain ⟨first, rest⟩ := List.forall_mem_cons.mp contents
    rw [List.map_cons, List.mapM_cons]
    exact except_bind_ok.mpr ⟨file, except_bind_ok.mpr ⟨_, first, rfl⟩,
      except_bind_ok.mpr ⟨files, mapM_fileAt rest, rfl⟩⟩

/-- **A directory is read for its JSON files**, whole and in order. -/
theorem readFilesFromFolder_holds {files : List MessageFile} (holds : disk.Holds path files) :
    disk.readFilesFromFolder path = some (.ok (files.filter fun file => isJson file.filename)) := by
  have here : disk.dirExists path = true := by
    unfold dirExists
    rw [holds.directory]
    rfl
  unfold readFilesFromFolder
  rw [if_pos here]
  refine congrArg some (except_bind_ok.mpr ⟨_, holds.listed, ?_⟩)
  rw [List.filter_map]
  exact mapM_fileAt fun file inside => holds.contents file (List.mem_of_mem_filter inside)

end Disk

end ValidatorEjector
