import AlorRs.Lib.Effect
import Mathlib.Algebra.BigOperators.Group.List.Basic
import Mathlib.Data.List.AList
import Mathlib.Tactic.Ring

/-!
# Directories that are changed step by step

A directory maps names to contents.  A `Disk` remembers the directory after every step, since a
crash may leave any of them.  `publish` puts a file under a new name as a program does that writes
it under another name first: what it leaves half done has that other name in it.
-/

/-- The files of a directory. -/
abbrev Directory (N C : Type) := AList fun _ : N => C

namespace Directory

variable {N C : Type} [DecidableEq N]

/-- The sum of the sizes of the files. -/
def total (size : C → ℕ) (dir : Directory N C) : ℕ :=
  (dir.keys.map fun name => ((dir.lookup name).map size).getD 0).sum

variable {name : N}

theorem mem_keys_iff {dir : Directory N C} : name ∈ dir.keys ↔ (dir.lookup name).isSome = true := by
  rw [AList.lookup_isSome, AList.mem_keys]

/-- Directories with the same files have the same names. -/
theorem keys_perm {dir dir' : Directory N C} (h : ∀ name, dir.lookup name = dir'.lookup name) :
    dir.keys.Perm dir'.keys := by
  refine (List.perm_ext_iff_of_nodup dir.keys_nodup dir'.keys_nodup).mpr ?_
  intro name
  rw [mem_keys_iff, mem_keys_iff, h]

theorem total_congr {size : C → ℕ} {dir dir' : Directory N C}
    (h : ∀ name, dir.lookup name = dir'.lookup name) : total size dir = total size dir' := by
  unfold total
  simp only [h]
  exact ((keys_perm h).map _).sum_eq

theorem length_keys_congr {dir dir' : Directory N C}
    (h : ∀ name, dir.lookup name = dir'.lookup name) : dir.keys.length = dir'.keys.length :=
  (keys_perm h).length_eq

theorem keys_insert_of_notMem {dir : Directory N C} {content : C} (h : name ∉ dir) :
    (dir.insert name content).keys = name :: dir.keys := by
  rw [AList.keys_insert, List.erase_of_not_mem h]

/-- A new file adds its size. -/
theorem total_insert {size : C → ℕ} {dir : Directory N C} {content : C} (h : name ∉ dir) :
    total size (dir.insert name content) = total size dir + size content := by
  unfold total
  rw [keys_insert_of_notMem h, List.map_cons, List.sum_cons, AList.lookup_insert]
  have hmap : dir.keys.map (fun other => (((dir.insert name content).lookup other).map size).getD 0) =
      dir.keys.map fun other => ((dir.lookup other).map size).getD 0 := by
    refine List.map_congr_left ?_
    intro other hother
    have hne : other ≠ name := by
      rintro rfl
      exact h hother
    rw [AList.lookup_insert_ne hne]
  rw [hmap, Nat.add_comm]
  rfl

/-- A file that takes the place of another adds its size and takes away the size of the other. -/
theorem total_insert_of_lookup {size : C → ℕ} {dir : Directory N C} {content old : C}
    (h : dir.lookup name = some old) :
    total size (dir.insert name content) + size old = total size dir + size content := by
  have hmem : name ∈ dir.keys := mem_keys_iff.mpr (by rw [h]; rfl)
  have hmap : ∀ other ∈ dir.keys.erase name,
      (((dir.insert name content).lookup other).map size).getD 0 =
        ((dir.lookup other).map size).getD 0 := by
    intro other hother
    have hne : other ≠ name := (dir.keys_nodup.mem_erase_iff.mp hother).1
    rw [AList.lookup_insert_ne hne]
  have htotal : total size dir = size old +
      ((dir.keys.erase name).map fun other => ((dir.lookup other).map size).getD 0).sum := by
    unfold total
    rw [((List.perm_cons_erase hmem).map _).sum_eq, List.map_cons, List.sum_cons, h]
    rfl
  have hinsert : total size (dir.insert name content) = size content +
      ((dir.keys.erase name).map fun other => ((dir.lookup other).map size).getD 0).sum := by
    unfold total
    rw [AList.keys_insert, List.map_cons, List.sum_cons, AList.lookup_insert,
      List.map_congr_left hmap]
    rfl
  rw [hinsert, htotal]
  omega

/-- Every file of a directory satisfies `P`. -/
def All (P : C → Prop) (dir : Directory N C) : Prop :=
  ∀ name content, dir.lookup name = some content → P content

theorem All.insert {P : C → Prop} {dir dir' : Directory N C} {content : C} (h : All P dir)
    (hdir' : ∀ other, dir'.lookup other = (dir.insert name content).lookup other)
    (hcontent : P content) : All P dir' := by
  intro other found hlookup
  rw [hdir'] at hlookup
  by_cases hother : other = name
  · rw [hother, AList.lookup_insert] at hlookup
    exact Option.some.inj hlookup ▸ hcontent
  · rw [AList.lookup_insert_ne hother] at hlookup
    exact h other found hlookup

end Directory

/-- A directory, and what it was after every step. -/
structure Disk (N C : Type) where
  dir : Directory N C
  steps : List (Directory N C)

namespace Disk

open Eff

variable {E N C : Type} [DecidableEq N]

/-- A step: what a crash leaves is the directory before it or after it. -/
def step (f : Directory N C → Directory N C) : Eff E String (Disk N C) Unit :=
  Eff.modify fun disk => ⟨f disk.dir, disk.steps ++ [f disk.dir]⟩

/-- Writes a file under a temporary name, links it under its own and removes the other; neither of
the names may be taken. -/
def publish (temporary name : N) (content : C) : Eff E String (Disk N C) Unit := do
  let disk ← Eff.get
  if temporary ∈ disk.dir then Eff.fail "file exists"
  else
    step (·.insert temporary content)
    let disk ← Eff.get
    if name ∈ disk.dir then Eff.fail "file exists"
    else
      step (·.insert name content)
      step (·.erase temporary)

/-- Writes a file under a temporary name, which may not be taken, and moves it to its own name,
where it takes the place of the file that is there. -/
def replace (temporary name : N) (content : C) : Eff E String (Disk N C) Unit := do
  let disk ← Eff.get
  if temporary ∈ disk.dir then Eff.fail "file exists"
  else
    step (·.insert temporary content)
    step fun dir => (dir.erase temporary).insert name content

variable (dir : Directory N C)

/-- The directory with one more file. -/
def Adds (name : N) (content : C) (dir' : Directory N C) : Prop :=
  name ∉ dir ∧ ∀ other, dir'.lookup other = (dir.insert name content).lookup other

namespace Adds

variable {dir dir' : Directory N C} {name other : N} {content : C}

theorem lookup_self (h : Adds dir name content dir') : dir'.lookup name = some content := by
  rw [h.2, AList.lookup_insert]

theorem lookup_of_ne (h : Adds dir name content dir') (hne : other ≠ name) :
    dir'.lookup other = dir.lookup other := by
  rw [h.2, AList.lookup_insert_ne hne]

theorem mem_of_ne (h : Adds dir name content dir') (hne : other ≠ name) :
    other ∈ dir' ↔ other ∈ dir := by
  rw [← AList.lookup_isSome, ← AList.lookup_isSome, h.lookup_of_ne hne]

theorem mem_self (h : Adds dir name content dir') : name ∈ dir' := by
  rw [← AList.lookup_isSome, h.lookup_self]
  rfl

theorem total {size : C → ℕ} (h : Adds dir name content dir') :
    Directory.total size dir' = Directory.total size dir + size content := by
  rw [Directory.total_congr h.2, Directory.total_insert h.1]

theorem length_keys (h : Adds dir name content dir') : dir'.keys.length = dir.keys.length + 1 := by
  rw [Directory.length_keys_congr h.2, Directory.keys_insert_of_notMem h.1, List.length_cons]

end Adds

/-! ### Files that stay -/

/-- The files of these names stay as they are. -/
def Keeps (p : N → Prop) (dir dir' : Directory N C) : Prop :=
  ∀ name content, p name → dir.lookup name = some content → dir'.lookup name = some content

variable {p : N → Prop}

theorem Keeps.refl : Keeps p dir dir := fun _ _ _ h => h

theorem Keeps.trans {dir dir' dir'' : Directory N C} (h : Keeps p dir dir')
    (h' : Keeps p dir' dir'') : Keeps p dir dir'' :=
  fun name content hp hlookup => h' name content hp (h name content hp hlookup)

theorem keeps_insert {dir : Directory N C} {name : N} {content : C} (h : name ∉ dir) :
    Keeps p dir (dir.insert name content) := by
  intro other old _ hold
  have hne : other ≠ name := by
    rintro rfl
    exact h (AList.lookup_isSome.mp (by rw [hold]; rfl))
  rw [AList.lookup_insert_ne hne]
  exact hold

/-- Every new step satisfies `P`. -/
def Steps (P : Directory N C → Prop) (disk disk' : Disk N C) : Prop :=
  ∃ new, disk'.steps = disk.steps ++ new ∧ ∀ dir ∈ new, P dir

namespace Steps

variable {P Q : Directory N C → Prop} {disk disk' disk'' : Disk N C}

omit [DecidableEq N] in
theorem refl (disk : Disk N C) : Steps P disk disk :=
  ⟨[], (List.append_nil _).symm, fun _ h => absurd h List.not_mem_nil⟩

omit [DecidableEq N] in
theorem trans (h : Steps P disk disk') (h' : Steps P disk' disk'') : Steps P disk disk'' := by
  obtain ⟨new, hnew, hall⟩ := h
  obtain ⟨new', hnew', hall'⟩ := h'
  refine ⟨new ++ new', by rw [hnew', hnew, List.append_assoc], ?_⟩
  intro dir hdir
  exact (List.mem_append.mp hdir).elim (hall dir) (hall' dir)

omit [DecidableEq N] in
theorem mono (h : Steps P disk disk') (himp : ∀ dir, P dir → Q dir) : Steps Q disk disk' := by
  obtain ⟨new, hnew, hall⟩ := h
  exact ⟨new, hnew, fun dir hdir => himp dir (hall dir hdir)⟩

omit [DecidableEq N] in
/-- What holds at the start and of every new step holds of what a crash may leave. -/
theorem forall_mem {dir : Directory N C} (h : Steps P ⟨dir, []⟩ disk') (hdir : P dir) :
    ∀ other ∈ dir :: disk'.steps, P other := by
  obtain ⟨new, hnew, hall⟩ := h
  rw [hnew]
  exact List.forall_mem_cons.mpr ⟨hdir, hall⟩

end Steps

/-- What there is grows: at every step and in the end, the files of these names stay. -/
def Grows (p : N → Prop) (disk disk' : Disk N C) : Prop :=
  Keeps p disk.dir disk'.dir ∧ Steps (Keeps p disk.dir) disk disk'

namespace Grows

variable {p : N → Prop} {disk disk' disk'' : Disk N C}

theorem trans (h : Grows p disk disk') (h' : Grows p disk' disk'') : Grows p disk disk'' :=
  ⟨h.1.trans h'.1, h.2.trans (h'.2.mono fun _ hkeeps => h.1.trans hkeeps)⟩

instance : Std.Refl (Grows (N := N) (C := C) p) := ⟨fun disk => ⟨.refl _, .refl disk⟩⟩

instance : IsTrans (Disk N C) (Grows p) := ⟨fun _ _ _ => .trans⟩

end Grows

section Publish

variable {e : E} {temporary name : N} {content : C} {disk : Disk N C}

/-- A directory on the way to one more file: but for the temporary name, it is what it was or has
the file. -/
def Publishing (temporary name : N) (content : C) (dir dir' : Directory N C) : Prop :=
  ∀ other ≠ temporary, dir'.lookup other = dir.lookup other ∨
    (other = name ∧ name ∉ dir ∧ dir'.lookup other = some content)

theorem Publishing.keeps {dir dir' : Directory N C} (h : Publishing temporary name content dir dir')
    (hp : ¬p temporary) : Keeps p dir dir' := by
  intro other old hother hold
  have hne : other ≠ temporary := by
    rintro rfl
    exact hp hother
  rcases h other hne with hsame | ⟨rfl, hnew, -⟩
  · rw [hsame]
    exact hold
  · exact absurd (AList.lookup_isSome.mp (by rw [hold]; rfl)) hnew

/-- All directories of `publish` are on the way. -/
theorem wp_publish_steps :
    wp (publish temporary name content) e disk
      (fun _ disk' => Publishing temporary name content disk.dir disk'.dir ∧
        Steps (Publishing temporary name content disk.dir) disk disk')
      (fun _ disk' => Publishing temporary name content disk.dir disk'.dir ∧
        Steps (Publishing temporary name content disk.dir) disk disk') := by
  have hself : Publishing temporary name content disk.dir disk.dir := fun _ _ => .inl rfl
  unfold publish
  rw [wp_bind, wp_get]
  -- a temporary file that is left over stops the publication
  split_ifs with htemporary
  · exact ⟨hself, .refl disk⟩
  · unfold step
    rw [wp_bind, wp_modify, wp_bind, wp_get]
    have hwritten : Publishing temporary name content disk.dir
        (disk.dir.insert temporary content) :=
      -- each of the three steps leaves the other names alone
      fun other hne => .inl (AList.lookup_insert_ne hne)
    split_ifs with hname
    · refine ⟨hwritten, [_], rfl, ?_⟩
      intro dir hdir
      exact List.mem_singleton.mp hdir ▸ hwritten
    · rw [wp_bind, wp_modify, wp_modify]
      have hnew : name ∉ disk.dir := fun hmem => hname (AList.mem_insert _ |>.mpr (.inr hmem))
      have hlinked : Publishing temporary name content disk.dir
          ((disk.dir.insert temporary content).insert name content) := by
        intro other hne
        by_cases hother : other = name
        · rw [hother, AList.lookup_insert]
          exact .inr ⟨rfl, hnew, rfl⟩
        · rw [AList.lookup_insert_ne hother, AList.lookup_insert_ne hne]
          exact .inl rfl
      have hremoved : Publishing temporary name content disk.dir
          (AList.erase temporary ((disk.dir.insert temporary content).insert name content)) := by
        intro other hne
        rw [AList.lookup_erase_ne hne]
        exact hlinked other hne
      refine ⟨hremoved, [disk.dir.insert temporary content,
        (disk.dir.insert temporary content).insert name content,
        AList.erase temporary ((disk.dir.insert temporary content).insert name content)],
        by simp only [List.append_assoc, List.cons_append, List.nil_append], ?_⟩
      intro dir hdir
      simp only [List.mem_cons, List.not_mem_nil, or_false] at hdir
      rcases hdir with rfl | rfl | rfl
      · exact hwritten
      · exact hlinked
      · exact hremoved

/-- A file that is published leaves the others as they are. -/
theorem within_publish (hp : ¬p temporary) : Within e (Grows p) (publish temporary name content) := by
  intro disk
  refine wp_mono wp_publish_steps ?_ ?_
  all_goals
    rintro _ disk' ⟨hdir, hsteps⟩
    exact ⟨hdir.keeps hp, hsteps.mono fun _ h => h.keeps hp⟩

/-- A file is published, or what was done is one step that leaves the temporary name. -/
theorem wp_publish :
    wp (publish temporary name content) e disk
      (fun _ disk' => Adds disk.dir name content disk'.dir ∧
        ∃ first second, disk'.steps = disk.steps ++ [first, second, disk'.dir] ∧
          temporary ∈ first ∧ temporary ∈ second)
      (fun _ disk' => disk' = disk ∨
        (disk'.steps = disk.steps ++ [disk'.dir] ∧ temporary ∈ disk'.dir)) := by
  unfold publish
  rw [wp_bind, wp_get]
  split_ifs with htemporary
  · exact .inl rfl
  · unfold step
    rw [wp_bind, wp_modify, wp_bind, wp_get]
    split_ifs with hname
    · exact .inr ⟨rfl, AList.mem_insert _ |>.mpr (.inl rfl)⟩
    · rw [wp_bind, wp_modify, wp_modify]
      -- the name is new, and the temporary one is not
      have hne : name ≠ temporary := by
        rintro rfl
        exact hname (AList.mem_insert _ |>.mpr (.inl rfl))
      refine ⟨⟨fun hmem => hname (AList.mem_insert _ |>.mpr (.inr hmem)), ?_⟩,
        disk.dir.insert temporary content, (disk.dir.insert temporary content).insert name content,
        ?_, AList.mem_insert _ |>.mpr (.inl rfl), ?_⟩
      · intro other
        show AList.lookup other (AList.erase temporary _) = _
        -- only the name differs from the directory before
        by_cases hother : other = temporary
        · rw [hother, AList.lookup_erase, AList.lookup_insert_ne hne.symm]
          exact (AList.lookup_eq_none.mpr htemporary).symm
        · rw [AList.lookup_erase_ne hother]
          by_cases hsame : other = name
          · rw [hsame, AList.lookup_insert, AList.lookup_insert]
          · rw [AList.lookup_insert_ne hsame, AList.lookup_insert_ne hother,
              AList.lookup_insert_ne hsame]
      · simp
      · exact AList.mem_insert _ |>.mpr (.inr (AList.mem_insert _ |>.mpr (.inl rfl)))

/-- Whatever the names, a file that is published takes away no file that was there. -/
theorem within_publish_keeps :
    Within e (Grows fun _ => True) (publish temporary name content) := by
  intro disk
  unfold publish
  rw [wp_bind, wp_get]
  split_ifs with htemporary
  · exact ⟨.refl _, .refl disk⟩
  · have hwritten : Keeps (fun _ => True) disk.dir (disk.dir.insert temporary content) :=
      keeps_insert htemporary
    unfold step
    rw [wp_bind, wp_modify, wp_bind, wp_get]
    split_ifs with hname
    · exact ⟨hwritten, [_], rfl, fun dir hdir => List.mem_singleton.mp hdir ▸ hwritten⟩
    · have hlinked : Keeps (fun _ => True) disk.dir
          ((disk.dir.insert temporary content).insert name content) :=
        hwritten.trans (keeps_insert hname)
      have hremoved : Keeps (fun _ => True) disk.dir
          (((disk.dir.insert temporary content).insert name content).erase temporary) := by
        intro other old _ hold
        have hne : other ≠ temporary := by
          rintro rfl
          exact htemporary (AList.lookup_isSome.mp (by rw [hold]; rfl))
        rw [AList.lookup_erase_ne hne]
        exact hlinked other old trivial hold
      rw [wp_bind, wp_modify, wp_modify]
      refine ⟨hremoved, [disk.dir.insert temporary content,
        (disk.dir.insert temporary content).insert name content,
        ((disk.dir.insert temporary content).insert name content).erase temporary],
        by simp only [List.append_assoc, List.cons_append, List.nil_append], ?_⟩
      intro dir hdir
      simp only [List.mem_cons, List.not_mem_nil, or_false] at hdir
      rcases hdir with rfl | rfl | rfl
      · exact hwritten
      · exact hlinked
      · exact hremoved

/-- A file takes the place of another in the last of two steps. -/
theorem wp_replace :
    wp (replace temporary name content) e disk
      (fun _ disk' =>
        (∀ other, disk'.dir.lookup other = (disk.dir.insert name content).lookup other) ∧
          temporary ∉ disk.dir ∧
            disk'.steps = disk.steps ++ [disk.dir.insert temporary content, disk'.dir])
      (fun _ disk' => disk' = disk) := by
  unfold replace
  rw [wp_bind, wp_get]
  split_ifs with htemporary
  · rfl
  · unfold step
    rw [wp_bind, wp_modify, wp_modify]
    refine ⟨?_, htemporary,
      by simp only [List.append_assoc, List.cons_append, List.nil_append]⟩
    intro other
    by_cases hname : other = name
    · rw [hname, AList.lookup_insert, AList.lookup_insert]
    · rw [AList.lookup_insert_ne hname, AList.lookup_insert_ne hname]
      by_cases hother : other = temporary
      · rw [hother, AList.lookup_erase, AList.lookup_eq_none.mpr htemporary]
      · rw [AList.lookup_erase_ne hother, AList.lookup_insert_ne hother]

end Publish

end Disk
