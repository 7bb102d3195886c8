import RunMeter.Files

/-!
# What is left of a name when its file is removed

A name is followed through directories and links, so it is not obvious that it leads nowhere once
what it stood for has been removed: the removal could open another way. It does not. What is removed
is no directory, hence no step of the way but the last one; and where it is a link that the way also
passes through, the way breaks off there (`Files.walk_beside`, `Files.follow_beside`).

The same comparison of two states of the files, which differ at one path only, shows that a name
leads to the same path whether there is nothing or a file at its end (`Files.locate_of_bare`).
`Files.node_of_remove` and `Files.node_of_remove_notFound` are what follows for removals, and
`Files.remove_of_bare` says what a removal makes of such an end.
-/

set_option autoImplicit false

namespace RunMeter.Files

variable {files other : Files} {path : Path}

/-- Whether there is nothing or a file at a path. -/
def IsBare (files : Files) (path : Path) : Prop :=
  files.lookup? path = none ∨
    ∃ content permissions, files.lookup? path = some (.file content permissions)

/-- Whether there is a directory at a path. -/
def IsDirectoryAt (files : Files) (path : Path) : Prop :=
  ∃ permissions, files.lookup? path = some (.directory permissions)

/-- Whether there is a link at a path. -/
def IsLinkAt (files : Files) (path : Path) : Prop :=
  ∃ target, files.lookup? path = some (.link target)

theorem not_isDirectoryAt_of_none (h : files.lookup? path = none) :
    ¬ files.IsDirectoryAt path := by
  rintro ⟨permissions, hdirectory⟩
  cases h.symm.trans hdirectory

theorem not_isLinkAt_of_none (h : files.lookup? path = none) : ¬ files.IsLinkAt path := by
  rintro ⟨target, hlink⟩
  cases h.symm.trans hlink

theorem IsBare.not_isDirectoryAt (h : files.IsBare path) : ¬ files.IsDirectoryAt path := by
  rcases h with hnone | ⟨content, permissions, hfile⟩
  · exact not_isDirectoryAt_of_none hnone
  · rintro ⟨permissions, hdirectory⟩
    cases hfile.symm.trans hdirectory

theorem IsBare.not_isLinkAt (h : files.IsBare path) : ¬ files.IsLinkAt path := by
  rcases h with hnone | ⟨content, permissions, hfile⟩
  · exact not_isLinkAt_of_none hnone
  · rintro ⟨target, hlink⟩
    cases hfile.symm.trans hlink

/-! ## Forgetting a path -/

/-- The two paths that are directories whatever the entries are. -/
theorem isDirectoryAt_root (files : Files) (h : path = [] ∨ path = ["/"]) :
    files.IsDirectoryAt path := by
  refine ⟨FileNode.programPermissions, ?_⟩
  rw [lookup?, if_pos h]
  rfl

theorem lookup_filter_of_ne {entries : List (Path × FileNode)} {p : Path} (h : p ≠ path) :
    (entries.filter fun (q, _) => q != path).lookup p = entries.lookup p := by
  induction entries with
  | nil => rfl
  | cons entry entries ih =>
    obtain ⟨q, node⟩ := entry
    by_cases hq : q = path
    · have hpq : (p == q) = false := beq_false_of_ne (hq ▸ h)
      rw [List.filter_cons_of_neg (by simp [hq]), ih, List.lookup_cons, hpq]
    · rw [List.filter_cons_of_pos (by simp [hq]), List.lookup_cons, List.lookup_cons, ih]

theorem lookup_erase_of_ne (files : Files) {p : Path} (h : p ≠ path) :
    Files.lookup? (files.erase path) p = files.lookup? p := by
  unfold lookup?
  split
  · rfl
  · exact lookup_filter_of_ne h

theorem lookup_erase_self (h : ¬ files.IsDirectoryAt path) :
    Files.lookup? (files.erase path) path = none := by
  have hroot : ¬ (path = [] ∨ path = ["/"]) := fun hroot => h (isDirectoryAt_root files hroot)
  rw [lookup?, if_neg hroot, List.lookup_eq_none_iff]
  intro entry hentry
  have hne : (entry.1 != path) = true := (List.mem_filter.1 hentry).2
  rw [bne_comm]
  exact hne

/-- Where there is nothing, nothing is forgotten. -/
theorem erase_of_none (h : files.lookup? path = none) : files.erase path = files := by
  have hroot : ¬ (path = [] ∨ path = ["/"]) :=
    fun hroot => not_isDirectoryAt_of_none h (isDirectoryAt_root files hroot)
  rw [lookup?, if_neg hroot, List.lookup_eq_none_iff] at h
  have hall : files.entries.filter (fun (p, _) => p != path) = files.entries := by
    rw [List.filter_eq_self]
    intro entry hentry
    have hne := h entry hentry
    rw [bne_comm] at hne
    exact hne
  rw [erase, hall]

/-! ## Single steps -/

/-- A step leads out of directories only. -/
theorem exists_fault_of_not_isDirectoryAt {done : Path} (h : ¬ files.IsDirectoryAt done)
    (followsLast : Bool) (step : String) (rest : List String) :
    ∃ fault, files.walk followsLast done (step :: rest) = .error fault := by
  rw [walk]
  split
  · exact ⟨_, rfl⟩
  · next permissions hdirectory => exact absurd ⟨permissions, hdirectory⟩ h
  · exact ⟨_, rfl⟩

theorem walk_cons_of_none {done : Path} (h : files.lookup? done = none) (followsLast : Bool)
    (step : String) (rest : List String) :
    files.walk followsLast done (step :: rest) = .error .notFound := by
  rw [walk, h]

/-- What a step does in a directory, whatever the files are: it leads to a fixed place, it is
refused, or it leads to the entry of its name. -/
theorem walk_cons_cases (done : Path) (step : String) :
    (∃ next, ∀ (files : Files) (followsLast : Bool) (rest : List String),
        files.IsDirectoryAt done →
          files.walk followsLast done (step :: rest) = files.walk followsLast next rest) ∨
      (∃ fault, ∀ (files : Files) (followsLast : Bool) (rest : List String),
        files.IsDirectoryAt done →
          files.walk followsLast done (step :: rest) = .error fault) ∨
      ∀ (files : Files) (followsLast : Bool) (rest : List String), files.IsDirectoryAt done →
        (¬ files.IsLinkAt (done ++ [step]) →
          files.walk followsLast done (step :: rest) =
            files.walk followsLast (done ++ [step]) rest) ∧
        ∀ target, files.lookup? (done ++ [step]) = some (.link target) →
          files.walk followsLast done (step :: rest) =
            if rest.isEmpty && !followsLast then .ok (.arrived (done ++ [step]))
            else .ok (.link done target rest) := by
  by_cases hidle : step = "" ∨ step = "."
  · refine Or.inl ⟨done, ?_⟩
    rintro files followsLast rest ⟨permissions, hdone⟩
    rw [walk, hdone]
    exact if_pos hidle
  by_cases hup : step = ".."
  · refine Or.inl ⟨done.above, ?_⟩
    rintro files followsLast rest ⟨permissions, hdone⟩
    rw [walk, hdone]
    exact (if_neg hidle).trans (if_pos hup)
  by_cases hlong : maxStep < step.utf8ByteSize
  · refine Or.inr (Or.inl ⟨.nameTooLong, ?_⟩)
    rintro files followsLast rest ⟨permissions, hdone⟩
    rw [walk, hdone]
    exact (if_neg hidle).trans ((if_neg hup).trans (if_pos hlong))
  · refine Or.inr (Or.inr ?_)
    rintro files followsLast rest ⟨permissions, hdone⟩
    rw [walk, hdone]
    dsimp only
    rw [if_neg hidle, if_neg hup, if_neg hlong]
    constructor
    · intro hnolink
      split
      · next target hlink => exact absurd ⟨target, hlink⟩ hnolink
      · rfl
    · intro target hlink
      rw [hlink]

/-! ## A link at the end -/

/-- Following the last step makes a difference at a link only. -/
theorem walk_true_eq (files : Files) (done : Path) (steps : List String) :
    files.walk true done steps = files.walk false done steps ∨
      ∃ path, files.walk false done steps = .ok (.arrived path) ∧ files.IsLinkAt path := by
  induction steps generalizing done with
  | nil => exact Or.inl rfl
  | cons step rest ih =>
    rw [walk, walk]
    split
    · exact Or.inl rfl
    · split
      · exact ih done
      · split
        · exact ih done.above
        · split
          · exact Or.inl rfl
          · split
            · next target hlink =>
              cases rest with
              | nil => exact Or.inr ⟨done ++ [step], rfl, target, hlink⟩
              | cons next rest => exact Or.inl rfl
            · exact ih (done ++ [step])
    · exact Or.inl rfl

theorem follow_true_eq (files : Files) (links : Nat) (done : Path) (steps : List String) :
    files.follow true links done steps = files.follow false links done steps ∨
      ∃ path, files.follow false links done steps = .ok path ∧ files.IsLinkAt path := by
  induction links generalizing done steps with
  | zero => exact Or.inl rfl
  | succ links ih =>
    rw [follow, follow]
    rcases walk_true_eq files done steps with heq | ⟨path, harrived, hlink⟩
    · rw [heq]
      split
      · exact Or.inl rfl
      · exact Or.inl rfl
      · exact ih _ _
    · rw [harrived]
      exact Or.inr ⟨path, rfl, hlink⟩

theorem locate_true_eq (files : Files) (directory : Path) (name : String) :
    files.locate true directory name = files.locate false directory name ∨
      ∃ path, files.locate false directory name = .ok path ∧ files.IsLinkAt path := by
  unfold locate
  split
  · exact Or.inl rfl
  · split
    · exact Or.inl rfl
    · split
      · exact Or.inl rfl
      · exact follow_true_eq files maxLinks _ _

/-! ## Two states that differ at one path -/

section Beside

variable (hbeside : ∀ p, p ≠ path → other.lookup? p = files.lookup? p)
  (hfiles : ¬ files.IsDirectoryAt path) (hother : ¬ other.IsLinkAt path)
  (hlink : files.IsLinkAt path → other.lookup? path = none)

include hbeside hfiles hother hlink

/-- Steps that arrive nowhere but at the path lead to the same, unless they pass through a link
there: then they break off. -/
theorem walk_beside {done : Path} {steps : List String} {found : Walk}
    (h : files.walk false done steps = .ok found) (hpath : ∀ p, found = .arrived p → p = path) :
    other.walk false done steps = .ok found ∨
      files.IsLinkAt path ∧ other.walk false done steps = .error .notFound := by
  induction steps generalizing done with
  | nil => exact Or.inl h
  | cons step rest ih =>
    by_cases hdone : files.IsDirectoryAt done
    · have hsame : other.IsDirectoryAt done := by
        obtain ⟨permissions, hentry⟩ := hdone
        refine ⟨permissions, ?_⟩
        rw [hbeside done (by rintro rfl; exact hfiles ⟨permissions, hentry⟩), hentry]
      rcases walk_cons_cases done step with ⟨next, hnext⟩ | ⟨fault, hfault⟩ | hnamed
      · rw [hnext files false rest hdone] at h
        rw [hnext other false rest hsame]
        exact ih h
      · rw [hfault files false rest hdone] at h
        cases h
      · obtain ⟨hplain, hlinked⟩ := hnamed files false rest hdone
        obtain ⟨hplain', hlinked'⟩ := hnamed other false rest hsame
        by_cases hend : done ++ [step] = path
        · -- The step leads to the path itself, where the two states may differ.
          rw [hend] at hplain hplain' hlinked
          rw [hplain' hother]
          by_cases hhere : files.IsLinkAt path
          · obtain ⟨target, htarget⟩ := hhere
            rw [hlinked target htarget] at h
            cases rest with
            | nil => exact Or.inl h
            | cons next rest =>
              right
              exact ⟨⟨target, htarget⟩, walk_cons_of_none (hlink ⟨target, htarget⟩) false next rest⟩
          · rw [hplain hhere] at h
            exact ih h
        · have hentry := hbeside _ hend
          by_cases hhere : files.IsLinkAt (done ++ [step])
          · obtain ⟨target, htarget⟩ := hhere
            rw [hlinked target htarget] at h
            rw [hlinked' target (hentry.trans htarget)]
            exact Or.inl h
          · have hhere' : ¬ other.IsLinkAt (done ++ [step]) := by
              rintro ⟨target, htarget⟩
              exact hhere ⟨target, hentry.symm.trans htarget⟩
            rw [hplain hhere] at h
            rw [hplain' hhere']
            exact ih h
    · obtain ⟨fault, hfault⟩ := exists_fault_of_not_isDirectoryAt hdone false step rest
      rw [hfault] at h
      cases h

theorem follow_beside {links : Nat} {done : Path} {steps : List String}
    (h : files.follow false links done steps = .ok path) :
    other.follow false links done steps = .ok path ∨
      files.IsLinkAt path ∧ other.follow false links done steps = .error .notFound := by
  induction links generalizing done steps with
  | zero => cases h
  | succ links ih =>
    rw [follow] at h ⊢
    cases hwalk : files.walk false done steps with
    | error fault =>
      rw [hwalk] at h
      cases h
    | ok found =>
      rw [hwalk] at h
      have hpath : ∀ p, found = .arrived p → p = path := by
        rintro p rfl
        exact Except.ok.inj h
      rcases walk_beside hbeside hfiles hother hlink hwalk hpath with hsame | ⟨hhere, hbroken⟩
      · rw [hsame]
        cases found with
        | arrived p => exact Or.inl h
        | link directory target rest => exact ih h
      · rw [hbroken]
        exact Or.inr ⟨hhere, rfl⟩

theorem locate_beside {directory : Path} {name : String}
    (h : files.locate false directory name = .ok path) :
    other.locate false directory name = .ok path ∨
      files.IsLinkAt path ∧ other.locate false directory name = .error .notFound := by
  unfold locate at h ⊢
  split at h
  · cases h
  next hsome =>
    rw [if_neg hsome]
    split at h
    · cases h
    next hzero =>
      rw [if_neg hzero]
      split at h
      · cases h
      next hshort =>
        rw [if_neg hshort]
        exact follow_beside hbeside hfiles hother hlink h

end Beside

/-- A name leads to the same path whether there is nothing or a file at its end. -/
theorem locate_of_bare {directory : Path} {name : String}
    (h : files.locate false directory name = .ok path) (hfiles : files.IsBare path)
    (hother : other.IsBare path) (hsame : other.erase path = files.erase path) :
    other.locate false directory name = .ok path := by
  have hbeside : ∀ p, p ≠ path → other.lookup? p = files.lookup? p := by
    intro p hp
    rw [← lookup_erase_of_ne other hp, hsame, lookup_erase_of_ne files hp]
  have hnolink := hfiles.not_isLinkAt
  rcases locate_beside hbeside hfiles.not_isDirectoryAt hother.not_isLinkAt
    (fun hlink => absurd hlink hnolink) h with hlocate | ⟨hlink, -⟩
  · exact hlocate
  · exact absurd hlink hnolink

/-! ## Removals -/

/-- A name that stands for nothing leads to nothing. -/
theorem node_of_locate {name : String} (h : files.locate false [] name = .ok path)
    (hnone : files.lookup? path = none) : files.node name = .error .notFound := by
  rcases locate_true_eq files [] name with heq | ⟨p, hp, hlink⟩
  · rw [node, heq, h]
    simp only [nodeAt, hnone]
  · rw [h] at hp
    cases hp
    exact absurd hlink (not_isLinkAt_of_none hnone)

theorem node_of_locate_error {name : String}
    (h : files.locate false [] name = .error .notFound) : files.node name = .error .notFound := by
  rcases locate_true_eq files [] name with heq | ⟨p, hp, -⟩
  · rw [node, heq, h]
  · rw [h] at hp
    cases hp

/-- What is removed is an entry that is no directory. -/
theorem remove_eq_ok {cleared : Files} {name : String} (h : files.remove name = .ok cleared) :
    ∃ path, files.locate false [] name = .ok path ∧ ¬ files.IsDirectoryAt path ∧
      cleared = files.erase path := by
  cases hlocate : files.locate false [] name with
  | error fault =>
    rw [remove, hlocate] at h
    cases h
  | ok path =>
    refine ⟨path, rfl, ?_⟩
    cases hentry : files.lookup? path with
    | none =>
      simp only [remove, hlocate, removeAt, nodeAt, hentry] at h
      cases h
    | some node =>
      cases node with
      | directory permissions =>
        simp only [remove, hlocate, removeAt, nodeAt, hentry] at h
        cases h
      | file content permissions | link target | device device =>
        simp only [remove, hlocate, removeAt, nodeAt, hentry] at h
        refine ⟨?_, (Except.ok.inj h).symm⟩
        rintro ⟨permissions, hdirectory⟩
        cases hentry.symm.trans hdirectory

/-- After a removal the name leads nowhere. -/
theorem node_of_remove {cleared : Files} {name : String} (h : files.remove name = .ok cleared) :
    cleared.node name = .error .notFound := by
  obtain ⟨path, hlocate, hfiles, rfl⟩ := remove_eq_ok h
  have hnone := lookup_erase_self hfiles
  rcases locate_beside (fun p hp => lookup_erase_of_ne files hp) hfiles
    (not_isLinkAt_of_none hnone) (fun _ => hnone) hlocate with hsame | ⟨-, hbroken⟩
  · exact node_of_locate hsame hnone
  · exact node_of_locate_error hbroken

/-- A name whose removal finds nothing leads nowhere. -/
theorem node_of_remove_notFound {name : String} (h : files.remove name = .error .notFound) :
    files.node name = .error .notFound := by
  cases hlocate : files.locate false [] name with
  | error fault =>
    rw [remove, hlocate] at h
    cases h
    exact node_of_locate_error hlocate
  | ok path =>
    apply node_of_locate hlocate
    cases hentry : files.lookup? path with
    | none => rfl
    | some node =>
      cases node <;>
        · simp only [remove, hlocate, removeAt, nodeAt, hentry] at h
          cases h

/-- Where a name leads to nothing or to a file, its removal leaves all but the entry at its end, or
finds nothing to remove. -/
theorem remove_of_bare {name : String} (hlocate : files.locate false [] name = .ok path)
    (hfiles : files.IsBare path) :
    files.remove name = .ok (files.erase path) ∨
      files.remove name = .error .notFound ∧ files.erase path = files := by
  rcases hfiles with hnone | ⟨content, permissions, hfile⟩
  · refine Or.inr ⟨?_, erase_of_none hnone⟩
    simp only [remove, hlocate, removeAt, nodeAt, hnone]
  · left
    simp only [remove, hlocate, removeAt, nodeAt, hfile]

end RunMeter.Files
