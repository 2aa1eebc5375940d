import KeyLayers.CommandLine.FileSystem

/-!
# Reading what has been written

A path leads to a name whatever the directory holds, once it leads to one at all:
the files in the directory only decide which refusal a path gets.  So a path that
a file has been written behind leads to that file.

## Main results

* `Directory.lookup_put`, `Directory.lookup_put_of_ne` — the files after one has been written.
* `Directory.locate_eq_ok` — a path leads to the same name in every directory.
* `Directory.read_put` — **what has been written is read.**
* `FileSystem.append_put` — what a file holds that is written piece by piece.
-/

namespace KeyLayers.CommandLine

namespace Directory

theorem lookup_put (name : String) (content : List UInt8) (files : Files) :
    (put name content files).lookup name = some content := by
  induction files with
  | nil => simp [put]
  | cons f files ih =>
    by_cases hname : f.1 = name
    · simp [put, hname]
    · have hne : (name == f.1) = false := by simpa using Ne.symm hname
      rw [put, if_neg hname, List.lookup_cons, hne]
      exact ih

/-- Writing one file keeps the others. -/
theorem lookup_put_of_ne {name other : String} (hne : other ≠ name) (content : List UInt8)
    (files : Files) : (put name content files).lookup other = files.lookup other := by
  induction files with
  | nil =>
    have hother : (other == name) = false := by simpa using hne
    rw [put, List.lookup_cons, hother]
  | cons f files ih =>
    obtain ⟨first, old⟩ := f
    by_cases hname : first = name
    · obtain rfl := hname
      have hother : (other == first) = false := by simpa using hne
      rw [put, if_pos rfl, List.lookup_cons, List.lookup_cons, hother]
    · rw [put, if_neg hname, List.lookup_cons, List.lookup_cons, ih]

/-- What a file has held does not matter when it is written. -/
theorem put_put (name : String) (old content : List UInt8) (files : Files) :
    put name content (put name old files) = put name content files := by
  induction files with
  | nil => simp [put]
  | cons f files ih =>
    by_cases hname : f.1 = name
    · simp [put, hname]
    · simp [put, hname, ih]

/-- A path leads to the same name in every directory. -/
theorem locate_eq_ok {d : Directory} {p : FilePath} {name : String} (h : d.locate p = .ok name)
    (d' : Directory) : d'.locate p = .ok name := by
  unfold locate at h ⊢
  split at h
  · cases h
  rename_i hnull
  split at h
  · cases h
  rename_i hlong
  rw [if_neg hnull, if_neg hlong]
  cases hway : p.names.dropWhile (· = "..") with
  | nil => simp [hway] at h
  | cons first rest =>
    simp only [hway] at h ⊢
    split at h
    · cases h
    rename_i hfirst
    split at h
    · cases h
    rename_i houtside
    rw [if_neg hfirst, if_neg houtside]
    -- a path with further names is refused in one way or the other
    split at h
    · rename_i hrest
      rw [if_pos hrest]
      exact h
    · split at h <;> cases h

/-- **What has been written behind a path is read there.** -/
theorem read_put {d : Directory} {p : FilePath} {name : String} (h : d.locate p = .ok name)
    (content : List UInt8) : (Directory.mk (put name content d.files)).read p = .ok content := by
  simp [read, locate_eq_ok h, content?, lookup_put]

end Directory

namespace FileSystem

/-- What is added to a file that has just been written stands behind it. -/
theorem append_put (fs : FileSystem) (name : String) (content bytes : List UInt8) :
    (fs.put name content).append name bytes = fs.put name (content ++ bytes) := by
  simp [append, put, Directory.lookup_put, Directory.put_put]

theorem create_eq_ok {fs : FileSystem} {p : FilePath} {name : String}
    (h : fs.writes fs.files p = .ok name) : fs.create p = .ok (name, fs.put name []) := by
  rw [create, h]
  rfl

theorem create_eq_error {fs : FileSystem} {p : FilePath} {e : FileError}
    (h : fs.writes fs.files p = .error e) : fs.create p = .error e := by
  rw [create, h]
  rfl

end FileSystem

end KeyLayers.CommandLine
