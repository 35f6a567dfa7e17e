import Admission.Text.Items

/-!
What a program sees of files: what comes of reading and of writing at a path. The files below a working
directory are one such system. Nothing else is known of them than their texts: a path that leaves the
directory finds directories but no files, and a write is done at once or not at all.
-/

namespace Admission

inductive Reading
  | text (s : String)
  /-- Something is there, but no text. -/
  | unreadable
  | absent
  deriving DecidableEq, Repr

/-- The states of a file system. -/
class FileSystem (σ : Type) where
  read (files : σ) (path : String) : Reading
  /-- Writes a text at a path, and tells whether the whole of it was written. -/
  write (files : σ) (path text : String) : Bool × σ
  /-- What tells files apart, whatever paths lead to them. -/
  File : Type
  Content : Type
  /-- The file that a path leads to, which need not be there yet. -/
  file? (files : σ) (path : String) : Option File
  content? (files : σ) (file : File) : Option Content
  ofText (text : String) : Content

open FileSystem in
/-- Writing entirely replaces what the file holds, and leaves every other file alone. What a write that
fails leaves of its own file is not said. -/
class LawfulFileSystem (σ : Type) [FileSystem σ] : Prop where
  content?_write (files : σ) (path text : String) (h : (write files path text).1 = true) :
    ∃ file, file? files path = some file ∧
      content? (write files path text).2 file = some (ofText text)
  content?_write_of_ne (files : σ) (path text : String) (file : File σ)
    (h : file? files path ≠ some file) :
    content? (write files path text).2 file = content? files file

/-- The two things that a program does with files. -/
structure FileAccess (m : Type → Type) where
  read (path : String) : m Reading
  write (path text : String) : m Bool

def FileAccess.passing (σ : Type) [FileSystem σ] : FileAccess (StateM σ) where
  read path files := (FileSystem.read files path, files)
  write path text files := FileSystem.write files path text

inductive FileContent
  | text (s : String)
  /-- Bytes that are no text. -/
  | bytes
  deriving DecidableEq, Repr

/-- Files under their names, which are paths from the working directory without detours. -/
structure Files where
  entries : List (String × FileContent) := []
  deriving DecidableEq, Repr

namespace Files

inductive Place
  /-- The parts of a path from the working directory without detours. -/
  | inside (parts : List String)
  | outside
  deriving DecidableEq, Repr

def nameOf (parts : List String) : String := "/".intercalate parts

def find? (files : Files) (name : String) : Option FileContent :=
  (files.entries.find? fun e => e.1 == name).map Prod.snd

def isDirectory (files : Files) (parts : List String) : Bool :=
  parts.isEmpty || files.entries.any fun e => (nameOf parts ++ "/").toList.isPrefixOf e.1.toList

def maxPartBytes : Nat := 255

def isPart (s : String) : Bool := s.utf8ByteSize ≤ maxPartBytes && !s.toList.contains '\x00'

/-- Follows the parts of a path, each of which has to begin in a directory. -/
def follow (files : Files) : Place → List String → Option Place
  | place, [] => some place
  | .outside, part :: parts =>
    if part = "" ∨ part = "." ∨ part = ".." then follow files .outside parts else none
  | .inside here, part :: parts =>
    if files.isDirectory here = false then none
    else if part = "" ∨ part = "." then follow files (.inside here) parts
    else if part = ".." then
      follow files (if here.isEmpty then .outside else .inside here.dropLast) parts
    else if isPart part then follow files (.inside (here ++ [part])) parts
    else none

def place? (files : Files) (path : String) : Option Place :=
  if path = "" then none
  else
    let parts := (Text.cutAt '/' path.toList).map String.ofList
    follow files (if parts.head? = some "" then .outside else .inside []) parts

def read (files : Files) (path : String) : Reading :=
  match files.place? path with
  | none => .absent
  | some .outside => .unreadable
  | some (.inside parts) =>
    if files.isDirectory parts then .unreadable
    else
      match files.find? (nameOf parts) with
      | some (.text s) => .text s
      | some .bytes => .unreadable
      | none => .absent

def name? (files : Files) (path : String) : Option String :=
  match files.place? path with
  | some (.inside parts) => if files.isDirectory parts then none else some (nameOf parts)
  | _ => none

def put (name s : String) : List (String × FileContent) → List (String × FileContent)
  | [] => [(name, .text s)]
  | e :: entries =>
    if e.1 = name then (name, .text s) :: entries else e :: put name s entries

/-- Writes a text at a path, unless a directory is there or on the way something else is. -/
def write? (files : Files) (path s : String) : Option Files :=
  (files.name? path).map fun name => { entries := put name s files.entries }

/-- The texts that are new or different from what the files were before. -/
def changesSince (files before : Files) : List (String × String) :=
  files.entries.filterMap fun
    | (name, .text s) => if before.find? name = some (.text s) then none else some (name, s)
    | (_, .bytes) => none

instance : FileSystem Files where
  read := read
  write files path s := ((files.write? path s).isSome, (files.write? path s).getD files)
  File := String
  Content := FileContent
  file? := name?
  content? := find?
  ofText := .text

theorem find?_put (name s other : String) (entries : List (String × FileContent)) :
    find? ⟨put name s entries⟩ other =
      if name = other then some (.text s) else find? ⟨entries⟩ other := by
  induction entries with
  | nil => by_cases h : name = other <;> simp [put, find?, h]
  | cons e entries ih =>
    by_cases he : e.1 = name
    · by_cases h : name = other <;> simp [put, find?, he, h]
    · by_cases h : e.1 = other
      · subst h
        simp [put, find?, he, Ne.symm he]
      · simpa [put, find?, he, h] using ih

theorem find?_of_write? {files out : Files} {path s : String} (h : files.write? path s = some out) :
    ∃ name, files.name? path = some name ∧
      ∀ other, out.find? other = if name = other then some (.text s) else files.find? other := by
  obtain ⟨name, hname, rfl⟩ := Option.map_eq_some_iff.1 h
  exact ⟨name, hname, fun other => find?_put name s other files.entries⟩

/-- A write leaves alone what is under another name. -/
theorem find?_write?_of_ne {files : Files} {path s other : String} (h : files.name? path ≠ some other) :
    ((files.write? path s).getD files).find? other = files.find? other := by
  cases hout : files.write? path s with
  | none => rfl
  | some out =>
    obtain ⟨name, hname, hfind⟩ := find?_of_write? hout
    have hne : name ≠ other := by
      rintro rfl
      exact h hname
    rw [Option.getD_some, hfind, if_neg hne]

instance : LawfulFileSystem Files where
  content?_write files path s h := by
    obtain ⟨out, hout⟩ := Option.isSome_iff_exists.1 h
    obtain ⟨name, hname, hfind⟩ := find?_of_write? hout
    refine ⟨name, hname, ?_⟩
    change ((files.write? path s).getD files).find? name = _
    rw [hout, Option.getD_some, hfind, if_pos rfl]
    rfl
  content?_write_of_ne _ _ _ _ h := find?_write?_of_ne h

end Files
end Admission
