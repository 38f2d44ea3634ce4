import CaptureReport.Folder

/-!
# What paths lead to, and what storing a file changes

A path **leads** to its spot if each of its names can be taken at a directory. What is found there
is the status of the spot, so a path that leads to a file or a directory goes on to do so while
other files come and go: a file takes the place of a directory nowhere, and where a file was, a file
with a new content is. A file that is stored can thus change what one spot holds, and nothing else.

Paths that lead nowhere are left out. Storing a file may clear their way.

How a path is spelled does not count, only the spot does: a path from the home and the same path
from the root mean one file.

## Main results

* `Folder.look_eq_iff`, `Folder.target?_eq_some_iff`: what a path finds, and where it creates a
  file.
* `Folder.spot_append`, `Folder.spot_home_append`: paths that are put together, and paths that are
  spelled out.
* `Folder.look_store`: what a path finds once a file has been stored.
* `Folder.store_store`: the last content stored at a spot is the one that counts.
* `Folder.keeps_store_iff`: when storing a file destroys nothing.
-/

namespace CaptureReport.Folder

variable {folder : Folder} {spot other : Spot} {path : String} {content : List UInt8}

/-! ### What is at a spot -/

theorem status_eq_of_find_eq_some (h : folder.find spot = some content) :
    folder.status spot = .file content := by
  rw [status, h]

theorem status_eq_of_find_eq_none (h : folder.find spot = none) :
    folder.status spot = if folder.isDirectory spot then .directory else .absent := by
  rw [status, h]

theorem status_eq_directory_iff :
    folder.status spot = .directory ↔ folder.find spot = none ∧ folder.isDirectory spot = true := by
  cases hfind : folder.find spot with
  | none =>
    rw [status_eq_of_find_eq_none hfind]
    split <;> simp_all
  | some content => simp [status_eq_of_find_eq_some hfind]

/-- No file is created at a directory. -/
theorem status_ne_directory_of_canCreate (h : folder.canCreate spot = true) :
    folder.status spot ≠ .directory := by
  intro hdirectory
  rw [canCreate, hdirectory] at h
  cases h

/-! ### Walking a path -/

/-- A path **leads** to its spot in a folder if each of its names can be taken. -/
def Leads (folder : Folder) (path : String) : Prop :=
  folder.walk (Path.names path) (folder.start path) = .ok (folder.spot path)

/-- Names can be taken one after another: the first at a directory, the others from where it leads
to. -/
theorem walk_cons_eq_ok_iff {name : String} {names : List String} {last : Spot} :
    folder.walk (name :: names) spot = .ok last ↔
      folder.status spot = .directory ∧ name.utf8ByteSize ≤ Path.nameLimit ∧
        folder.walk names (folder.step spot name) = .ok last := by
  rw [walk]
  cases folder.status spot with
  | directory =>
    by_cases hsize : Path.nameLimit < name.utf8ByteSize
    · simp [hsize, Nat.not_le.mpr hsize]
    · simp [hsize, Nat.not_lt.mp hsize]
  | absent | blocked | file content => simp

/-- A walk that comes to an end ends where its names lead to. -/
theorem walk_eq_ok {names : List String} {start : Spot}
    (h : folder.walk names start = .ok spot) : spot = names.foldl folder.step start := by
  induction names generalizing start with
  | nil => exact (Except.ok.inj h).symm
  | cons name names ih => exact ih (walk_cons_eq_ok_iff.mp h).2.2

/-- A walk that does not come to an end finds nothing. -/
theorem walk_eq_error {names : List String} {start : Spot} {found : Found}
    (h : folder.walk names start = .error found) : found = .absent ∨ found = .blocked := by
  induction names generalizing start with
  | nil => cases h
  | cons name names ih =>
    rw [walk] at h
    split at h
    · split at h
      · exact .inr (Except.error.inj h).symm
      · exact ih h
    · exact .inr (Except.error.inj h).symm
    · exact .inr (Except.error.inj h).symm
    · exact .inl (Except.error.inj h).symm

theorem walk_eq_ok_iff :
    folder.walk (Path.names path) (folder.start path) = .ok spot ↔
      folder.Leads path ∧ spot = folder.spot path := by
  constructor
  · intro h
    obtain rfl := walk_eq_ok h
    exact ⟨h, rfl⟩
  · rintro ⟨h, rfl⟩
    exact h

/-- **What a path finds**, if it finds anything. -/
theorem look_eq_iff {found : Found} (habsent : found ≠ .absent) (hblocked : found ≠ .blocked) :
    folder.look path = found ↔
      path.isEmpty = false ∧ Path.isUsable path = true ∧ folder.Leads path ∧
        folder.status (folder.spot path) = found := by
  rw [look]
  cases path.isEmpty with
  | true => simp [habsent.symm]
  | false =>
    cases Path.isUsable path with
    | false => simp [hblocked.symm]
    | true =>
      cases hwalk : folder.walk (Path.names path) (folder.start path) with
      | error met =>
        have hleads : ¬ folder.Leads path := by simp [Leads, hwalk]
        rcases walk_eq_error hwalk with rfl | rfl
        · simp [hleads, habsent.symm]
        · simp [hleads, hblocked.symm]
      | ok spot =>
        obtain ⟨hleads, rfl⟩ := walk_eq_ok_iff.mp hwalk
        simp [hleads]

/-- **Where a path creates a file.** -/
theorem target?_eq_some_iff :
    folder.target? path = some spot ↔
      Path.isUsable path = true ∧ Path.hasName path = true ∧ folder.Leads path ∧
        folder.canCreate spot = true ∧ spot = folder.spot path := by
  rw [target?]
  cases Path.isUsable path with
  | false => simp
  | true =>
    cases Path.hasName path with
    | false => simp
    | true =>
      cases hwalk : folder.walk (Path.names path) (folder.start path) with
      | error met => simp [Leads, hwalk]
      | ok last =>
        obtain ⟨hleads, rfl⟩ := walk_eq_ok_iff.mp hwalk
        simp only [hleads, true_and, Bool.not_true, Bool.or_self, Bool.false_eq_true, if_false]
        rw [Option.ite_none_right_eq_some, Option.some_inj]
        constructor
        · rintro ⟨hfree, rfl⟩
          exact ⟨hfree, rfl⟩
        · rintro ⟨hfree, rfl⟩
          exact ⟨hfree, rfl⟩

/-! ### Spellings of a path -/

/-- A name **leads down** if it is that of one file or directory in another. -/
def LeadsDown (name : String) : Prop :=
  name ≠ "" ∧ name ≠ "." ∧ name ≠ ".." ∧ '/' ∉ name.toList

/-- The home of a folder is **plain** if there are only names that lead down on the way to it, and
no link. -/
structure PlainHome (folder : Folder) : Prop where
  leadsDown : ∀ name ∈ folder.home, LeadsDown name
  noLink : ∀ spot, spot <+: folder.home → folder.resolve spot = spot

theorem names_append (front back : String) :
    Path.names (front ++ "/" ++ back) = Path.names front ++ Path.names back := by
  have hslash : (front ++ "/" ++ back).toList = front.toList ++ '/' :: back.toList := by simp
  simp only [Path.names, Text.pieces]
  rw [hslash, List.splitOn_append_cons_self, List.map_append]

/-- A path that goes on behind a slash leads on from where its front leads to. -/
theorem spot_append (folder : Folder) {front : String} (hfront : front ≠ "") (back : String) :
    folder.spot (front ++ "/" ++ back) =
      (Path.names back).foldl folder.step (folder.spot front) := by
  have hstart : folder.start (front ++ "/" ++ back) = folder.start front := by
    obtain ⟨c, cs, hcs⟩ := List.exists_cons_of_ne_nil (mt String.toList_eq_nil_iff.mp hfront)
    have hslash : (front ++ "/" ++ back).startsWith "/" = front.startsWith "/" := by
      rw [Bool.eq_iff_iff, String.startsWith_string_iff, String.startsWith_string_iff]
      simp [hcs, List.cons_prefix_cons]
    rw [start, start, hslash]
  rw [spot, spot, hstart, names_append, List.foldl_append]

/-- Names that lead down lead to the spot made up of them, if no link is on the way. -/
theorem foldl_step {names : List String} {front : Spot} (hdown : ∀ name ∈ names, LeadsDown name)
    (hlink : ∀ spot, spot <+: front ++ names → folder.resolve spot = spot) :
    names.foldl folder.step front = front ++ names := by
  induction names generalizing front with
  | nil => simp
  | cons name names ih =>
    have hassoc : front ++ name :: names = front ++ [name] ++ names := by simp
    have hstep : folder.step front name = front ++ [name] := by
      obtain ⟨hempty, hdot, hup, -⟩ := hdown name List.mem_cons_self
      simp only [step, Spot.step, hempty, hdot, hup, or_self, if_false]
      exact hlink _ (hassoc ▸ List.prefix_append _ _)
    rw [List.foldl_cons, hstep, hassoc]
    exact ih (fun other hother => hdown other (List.mem_cons_of_mem _ hother)) (hassoc ▸ hlink)

/-- The names of a path that is made up of them. -/
theorem names_intercalate (hne : spot ≠ []) (hdown : ∀ name ∈ spot, LeadsDown name) :
    Path.names ("/".intercalate spot) = spot := by
  have hinner : ∀ chars ∈ spot.map String.toList, '/' ∉ chars := by
    rintro chars hchars
    obtain ⟨name, hname, rfl⟩ := List.mem_map.mp hchars
    exact (hdown name hname).2.2.2
  rw [Path.names, Text.pieces, String.toList_intercalate, show "/".toList = ['/'] from rfl,
    List.splitOn_intercalate '/' hinner (by simpa using hne)]
  simp

/-- The path to a spot leads there. -/
theorem spot_path (hdown : ∀ name ∈ spot, LeadsDown name)
    (hlink : ∀ front, front <+: spot → folder.resolve front = front) :
    folder.spot spot.path = spot := by
  have hstart : folder.start spot.path = .root := by
    have hslash : spot.path.startsWith "/" = true := by
      rw [String.startsWith_string_iff]
      simp [Spot.path]
    rw [start, if_pos hslash]
  have hroot : folder.step .root "" = .root := hlink [] List.nil_prefix
  have hnames : Path.names spot.path = "" :: Path.names ("/".intercalate spot) := by
    rw [Spot.path, ← String.empty_append (s := "/" ++ _), ← String.append_assoc, names_append]
    rfl
  rw [Folder.spot, hstart, hnames, List.foldl_cons, hroot]
  cases spot with
  | nil => exact hroot
  | cons name names =>
    rw [names_intercalate (List.cons_ne_nil name names) hdown]
    exact foldl_step hdown hlink

/-- **A path means the same when it is spelled out from the root.** -/
theorem spot_home_append (hhome : folder.PlainHome) (hrelative : path.startsWith "/" = false) :
    folder.spot (folder.home.path ++ "/" ++ path) = folder.spot path := by
  have hfront : folder.home.path ≠ "" := by simp [Spot.path]
  rw [spot_append folder hfront, spot_path hhome.leadsDown hhome.noLink, spot, start, hrelative]
  rfl

example : ({} : Folder).spot "/tmp/work/a/../cap.bin" = ({} : Folder).spot "./cap.bin" := by
  decide +kernel

/-! ### Storing a file -/

/-- The last content that is stored at a spot is the one that counts. -/
theorem store_store (folder : Folder) (spot : Spot) (first last : List UInt8) :
    (folder.store spot first).store spot last = folder.store spot last := by
  simp [store, List.filter_filter]

/-- A directory stays one: if the file below it is replaced, the new one is still below it. -/
theorem isDirectory_store (h : folder.isDirectory other = true) :
    (folder.store spot content).isDirectory other = true := by
  simp only [isDirectory, store, List.any_append, List.any_map, Bool.or_eq_true,
    List.any_eq_true] at h ⊢
  rcases h with h | ⟨file, hfile, hbelow⟩ | hlink
  · exact .inl h
  · refine .inr (.inl ?_)
    by_cases hspot : file.1 = spot
    · exact ⟨(spot, content), List.mem_cons_self, hspot ▸ hbelow⟩
    · have hkept : file ∈ folder.files.filter fun file => file.1 ≠ spot :=
        List.mem_filter.mpr ⟨hfile, decide_eq_true hspot⟩
      exact ⟨file, List.mem_cons_of_mem _ hkept, hbelow⟩
  · exact .inr (.inr hlink)

/-- What was there before stays there, but for what the file takes the place of. -/
theorem status_store (spot : Spot) (content : List UInt8) (hother : folder.status other ≠ .absent) :
    (folder.store spot content).status other =
      if other = spot then .file content else folder.status other := by
  by_cases heq : other = spot
  · rw [if_pos heq, status_eq_of_find_eq_some (by rw [find_store, if_pos heq])]
  · have hfind := find_store folder spot other content
    rw [if_neg heq] at hfind ⊢
    cases hbefore : folder.find other with
    | some bytes =>
      rw [status_eq_of_find_eq_some hbefore, status_eq_of_find_eq_some (hfind.trans hbefore)]
    | none =>
      have hdirectory : folder.isDirectory other = true := by
        rw [status_eq_of_find_eq_none hbefore] at hother
        exact Decidable.of_not_not fun hnot => hother (if_neg hnot)
      rw [status_eq_directory_iff.mpr ⟨hbefore, hdirectory⟩,
        status_eq_directory_iff.mpr ⟨hfind.trans hbefore, isDirectory_store hdirectory⟩]

section

variable (hspot : folder.status spot ≠ .directory)
include hspot

theorem status_store_of_directory (hother : folder.status other = .directory) :
    (folder.store spot content).status other = .directory := by
  have hne : other ≠ spot := by
    rintro rfl
    exact hspot hother
  rw [status_store _ _ (by simp [hother]), if_neg hne, hother]

/-- A walk does not come across the file that is stored: it goes through directories only. -/
theorem walk_store {names : List String} {start last : Spot}
    (h : folder.walk names start = .ok last) :
    (folder.store spot content).walk names start = .ok last := by
  induction names generalizing start with
  | nil => exact h
  | cons name names ih =>
    obtain ⟨hstart, hsize, hrest⟩ := walk_cons_eq_ok_iff.mp h
    exact walk_cons_eq_ok_iff.mpr ⟨status_store_of_directory hspot hstart, hsize, ih hrest⟩

/-- **What a path finds once a file has been stored.** -/
theorem look_store (content : List UInt8) (habsent : folder.look path ≠ .absent)
    (hblocked : folder.look path ≠ .blocked) :
    (folder.store spot content).look path =
      if folder.spot path = spot then .file content else folder.look path := by
  obtain ⟨hnonempty, husable, hleads, hstatus⟩ := (look_eq_iff habsent hblocked).mp rfl
  have hafter := status_store spot content (hstatus ▸ habsent)
  rw [hstatus] at hafter
  refine (look_eq_iff ?_ ?_).mpr ⟨hnonempty, husable, walk_store hspot hleads, hafter⟩
  · split
    · simp
    · exact habsent
  · split
    · simp
    · exact hblocked

end

/-! ### Keeping files -/

/-- A folder **keeps** the files of an earlier one if it has each of them with the same bytes. -/
def Keeps (before after : Folder) : Prop :=
  ∀ spot content, before.find spot = some content → after.find spot = some content

theorem keeps_refl (folder : Folder) : folder.Keeps folder :=
  fun _ _ h => h

/-- **Storing a file destroys nothing** exactly if no file with other bytes was there. -/
theorem keeps_store_iff :
    folder.Keeps (folder.store spot content) ↔ ∀ old ∈ folder.find spot, old = content := by
  constructor
  · intro hkeeps old hold
    have hafter := hkeeps spot old hold
    rw [find_store, if_pos rfl] at hafter
    exact (Option.some.inj hafter).symm
  · intro hold other bytes hbytes
    rw [find_store]
    split
    · rename_i heq
      rw [hold bytes (heq ▸ hbytes)]
    · exact hbytes

end CaptureReport.Folder
