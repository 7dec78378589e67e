import Garak.Pathlib.Path
import Mathlib.Data.List.Nodup

/-!
# The file system as `pathlib` shows it

Only the four questions the tooling asks: `exists`, `is_dir`, `iterdir` and
`rglob`. The answers are functions of one unchanged tree, in one fixed order; what
the documentation of the four promises about them is carried as fields, so every
`FileSystem` at hand satisfies it. `exists` and `is_dir` say no to a path that leads
nowhere, and raise where the system refuses to tell; `rglob` passes over what it may not
list. `FileSystem.ofEntries` builds one from a finite list of entries, in listing order.
-/

namespace Pathlib

/-- Why the system does not answer about a path. -/
inductive OSError
  | fileNotFound
  | notADirectory
  | permissionDenied
  /-- another error number, and the system's words for it -/
  | other (errno : Nat) (strerror : String)
deriving DecidableEq

/-- `e.errno` -/
def OSError.errno : OSError → Nat
  | .fileNotFound => 2
  | .notADirectory => 20
  | .permissionDenied => 13
  | .other errno _ => errno

/-- `e.strerror` -/
def OSError.strerror : OSError → String
  | .fileNotFound => "No such file or directory"
  | .notADirectory => "Not a directory"
  | .permissionDenied => "Permission denied"
  | .other _ strerror => strerror

section Repr

-- `str.isprintable` beyond ASCII, a matter of the interpreter's Unicode tables
variable (isPrintable : Char → Bool)

/-- A backslash, the letter, and the code of the character in so many digits. -/
def escaped (letter : Char) (width : Nat) (c : Char) : List Char :=
  Char.ofNat 92 :: letter :: (Nat.toDigits 16 c.toNat).leftpad width '0'

/-- A character in the `repr` of a text that is written between the given quotes. -/
def reprChar (quote c : Char) : List Char :=
  if c = quote ∨ c = Char.ofNat 92 then [Char.ofNat 92, c]
  else if c = Char.ofNat 9 then [Char.ofNat 92, 't']
  else if c = Char.ofNat 10 then [Char.ofNat 92, 'n']
  else if c = Char.ofNat 13 then [Char.ofNat 92, 'r']
  else if c.toNat < 32 ∨ c.toNat = 127 then escaped 'x' 2 c
  else if c.toNat < 127 ∨ isPrintable c then [c]
  else if c.toNat < 256 then escaped 'x' 2 c
  else if c.toNat < 65536 then escaped 'u' 4 c
  else escaped 'U' 8 c

/-- `repr` of a text: between double quotes only where that saves escaping. -/
def repr (text : String) : String :=
  let quote : Char :=
    if Char.ofNat 39 ∈ text.toList ∧ Char.ofNat 34 ∉ text.toList then Char.ofNat 34
    else Char.ofNat 39
  String.ofList (quote :: (text.toList.flatMap (reprChar isPrintable quote) ++ [quote]))

/-- `str(e)`, raised about a path. -/
def OSError.text (error : OSError) (filename : Path) : String :=
  "[Errno " ++ toString error.errno ++ "] " ++ error.strerror ++ ": " ++
    repr isPrintable filename.str

end Repr

example : OSError.permissionDenied.text (fun _ => true) (Path.parse "/srv/it's") =
    "[Errno 13] Permission denied: \"/srv/it's\"" := by
  decide +kernel

/-- The name ends with the suffix (`fnmatch` of `*` followed by the suffix). -/
def endsWith (name suffix : String) : Prop := suffix.toList <:+ name.toList

instance (name suffix : String) : Decidable (endsWith name suffix) :=
  inferInstanceAs (Decidable (_ <:+ _))

/-- A suffix of the same length as another ends a name in one way only. -/
theorem endsWith_unique {name s t : String} (length : s.length = t.length)
    (hs : endsWith name s) (ht : endsWith name t) : s = t := by
  have same : s.toList.length = t.toList.length := by
    rw [String.length_toList, String.length_toList, length]
  exact String.toList_inj.mp
    ((List.suffix_of_suffix_length_le hs ht same.le).eq_of_length same)

/-- A file tree, as the four `pathlib` queries answer about it. -/
structure FileSystem where
  /-- `path.exists()` -/
  pathExists : Path → Except OSError Bool
  /-- `path.is_dir()` -/
  isDir : Path → Except OSError Bool
  /-- the names `path.iterdir()` yields, in the order of the listing -/
  iterdir : Path → Except OSError (List Component)
  /-- `path.rglob("**/*" + suffix)` -/
  rglob : Path → String → List Path
  exists_of_isDir : ∀ path, isDir path = .ok true → pathExists path = .ok true
  isDir_of_iterdir : ∀ path names, iterdir path = .ok names → isDir path = .ok true
  iterdir_nodup : ∀ path names, iterdir path = .ok names → names.Nodup
  rglob_below : ∀ top suffix path, path ∈ rglob top suffix → Path.Below top path
  rglob_endsWith : ∀ top suffix path, path ∈ rglob top suffix → endsWith path.name suffix
  rglob_nodup : ∀ top suffix, (rglob top suffix).Nodup

/-- The same tree, listing one of its directories in another order. -/
def FileSystem.relist (fs : FileSystem) (dir : Path) (names : List Component)
    (same : ∃ old, fs.iterdir dir = .ok old ∧ names.Perm old) : FileSystem :=
  { fs with
    iterdir := fun path => if path = dir then .ok names else fs.iterdir path
    isDir_of_iterdir := fun path found listed => by
      obtain ⟨old, oldListed, -⟩ := same
      split at listed
      · rename_i here
        exact here ▸ fs.isDir_of_iterdir dir old oldListed
      · exact fs.isDir_of_iterdir path found listed
    iterdir_nodup := fun path found listed => by
      obtain ⟨old, oldListed, perm⟩ := same
      split at listed
      · cases listed
        exact perm.nodup_iff.mpr (fs.iterdir_nodup dir old oldListed)
      · exact fs.iterdir_nodup path found listed }

theorem FileSystem.relist_iterdir (fs : FileSystem) (dir : Path) (names : List Component)
    (same : ∃ old, fs.iterdir dir = .ok old ∧ names.Perm old) :
    (fs.relist dir names same).iterdir dir = .ok names :=
  if_pos rfl

/-- What an entry is. -/
inductive Kind
  | file
  | dir
  /-- a link to where the user may not look -/
  | closed
deriving DecidableEq

/-- The names of the entries directly in a directory. -/
def entryNames (top : Path) : List (Path × Kind) → List Component
  | [] => []
  | (path, _) :: entries =>
      match path.parts.getLast? with
      | some c => if top.child c = path then c :: entryNames top entries else entryNames top entries
      | none => entryNames top entries

theorem child_mem_of_mem_entryNames {top : Path} {c : Component} {entries : List (Path × Kind)}
    (h : c ∈ entryNames top entries) : top.child c ∈ entries.map Prod.fst := by
  induction entries with
  | nil => simp [entryNames] at h
  | cons entry entries ih =>
      obtain ⟨path, kind⟩ := entry
      simp only [entryNames] at h
      simp only [List.map_cons, List.mem_cons]
      split at h
      · split at h
        · rename_i equal
          rcases List.mem_cons.mp h with rfl | member
          · exact .inl equal
          · exact .inr (ih member)
        · exact .inr (ih h)
      · exact .inr (ih h)

theorem entryNames_nodup {top : Path} {entries : List (Path × Kind)}
    (distinct : (entries.map Prod.fst).Nodup) : (entryNames top entries).Nodup := by
  induction entries with
  | nil => simp [entryNames]
  | cons entry entries ih =>
      obtain ⟨path, kind⟩ := entry
      rw [List.map_cons] at distinct
      obtain ⟨fresh, rest⟩ := List.nodup_cons.mp distinct
      have tail := ih rest
      simp only [entryNames]
      split
      · split
        · rename_i equal
          refine List.nodup_cons.mpr ⟨fun member => fresh ?_, tail⟩
          exact equal ▸ child_mem_of_mem_entryNames member
        · exact tail
      · exact tail

/-- The tree that consists of the given entries. -/
def FileSystem.ofEntries (entries : List (Path × Kind)) (distinct : (entries.map Prod.fst).Nodup) :
    FileSystem where
  pathExists path :=
    match entries.lookup path with
    | some .closed => .error .permissionDenied
    | some _ => .ok true
    | none => .ok false
  isDir path :=
    match entries.lookup path with
    | some .dir => .ok true
    | some .closed => .error .permissionDenied
    | _ => .ok false
  iterdir path :=
    match entries.lookup path with
    | some .dir => .ok (entryNames path entries)
    | some .file => .error .notADirectory
    | some .closed => .error .permissionDenied
    | none => .error .fileNotFound
  rglob top suffix :=
    (entries.map Prod.fst).filter fun path => decide (Path.Below top path ∧ endsWith path.name suffix)
  exists_of_isDir path h := by
    split at h
    · rename_i found
      rw [found]
    · cases h
    · cases h
  isDir_of_iterdir path names h := by
    split at h
    · rename_i found
      rw [found]
    · cases h
    · cases h
    · cases h
  iterdir_nodup path names h := by
    split at h
    · cases h
      exact entryNames_nodup distinct
    · cases h
    · cases h
    · cases h
  rglob_below top suffix path h := by
    simp only [List.mem_filter, decide_eq_true_eq] at h
    exact h.2.1
  rglob_endsWith top suffix path h := by
    simp only [List.mem_filter, decide_eq_true_eq] at h
    exact h.2.2
  rglob_nodup top suffix := distinct.filter _

end Pathlib
