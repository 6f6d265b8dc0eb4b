import Propositional.Proofs.Writing

namespace Propositional.Files
variable {files : Files}

theorem open_eq_ok_iff : files.open? path = .ok content ↔ checkPath path = .ok () ∧
    ∃ place, files.locate path = .ok place ∧ files.entry? place = some (.file content) := by
  rw [open?]
  cases checkPath path with
  | error e => exact iff_of_false nofun (fun h => nomatch h.1)
  | ok _ =>
    rw [and_iff_right rfl]
    cases files.locate path with
    | error fault => exact iff_of_false nofun (fun ⟨_, h, _⟩ => nomatch h)
    | ok place =>
      simp only [bind, Except.bind, Except.ok.injEq, exists_eq_left']
      cases files.entry? place with
      | none => exact iff_of_false nofun nofun
      | some entry =>
        cases entry with
        | folder => exact iff_of_false nofun nofun
        | file found => simp [Except.mapError, pure, Except.pure]

theorem write_eq_ok_iff : files.write path text = .ok saved ↔
    ∃ place, files.Opens path place ∧ saved = files.put place (.file (.text text)) := by
  constructor
  · intro h
    rw [write] at h
    cases hcheck : checkPath path with
    | error e =>
      rw [hcheck] at h
      cases h
    | ok _ =>
      cases hplace : files.locateFile path with
      | error fault =>
        rw [hcheck, hplace] at h
        cases h
      | ok place =>
        rw [hcheck, hplace] at h
        exact ⟨place, ⟨hcheck, hplace⟩, (Except.ok.inj h).symm⟩
  · rintro ⟨place, hopens, rfl⟩
    exact write_of_opens hopens text

/-- What is listed stays listed when something is put somewhere. -/
theorem listed_put (files : Files) (place : Place) (entry : Entry) {p : Place → Bool}
    (h : files.entries.any (p ·.1) = true) :
    (files.put place entry).entries.any (p ·.1) = true := by
  rw [put]
  split
  · rw [List.any_map, List.any_eq_true] at *
    obtain ⟨e, he, hp⟩ := h
    refine ⟨e, he, ?_⟩
    simp only [Function.comp]
    split
    · next hsame => rwa [Place.same_iff.mp hsame]
    · exact hp
  · rw [List.any_append, h, Bool.true_or]

/-- A folder is there as before after a file is put in the place of no folder. -/
theorem folder_put (hplace : files.entry? place ≠ some .folder)
    (h : files.entry? other = some .folder) (content : Content) :
    Files.entry? (files.put place (.file content)) other = some .folder := by
  have hne : other ≠ place := fun he => hplace (he ▸ h)
  unfold entry? at h ⊢
  rw [find_put, if_neg hne]
  split
  · rfl
  · next hfixed =>
    rw [if_neg hfixed] at h
    cases hfind : files.entries.find? (other.same ·.1) with
    | some e =>
      rw [hfind] at h
      exact h
    | none =>
      rw [hfind] at h
      dsimp only at h ⊢
      split at h
      · next hlisted => rw [if_pos (listed_put files place (.file content) hlisted)]
      · cases h

theorem walk_put (hplace : files.entry? place ≠ some .folder) (content : Content)
    (h : files.walk here way = .ok target) :
    Files.walk (files.put place (.file content)) here way = .ok target := by
  induction way generalizing here with
  | nil => exact h
  | cons name rest ih =>
    by_cases hrest : rest = []
    · subst hrest
      rwa [walk_singleton] at h ⊢
    · obtain ⟨there, hnext, hfolder, hwalk⟩ := (walk_cons_eq_ok hrest).mp h
      exact (walk_cons_eq_ok hrest).mpr
        ⟨there, hnext, folder_put hplace hfolder content, ih hwalk⟩

/-- Names that lead nowhere may stand before others on a way. -/
theorem walk_of_filter (hhere : files.entry? here = some .folder)
    (hlast : ∃ name ∈ way.getLast?, leads name = true)
    (h : files.walk here (way.filter leads) = .ok target) : files.walk here way = .ok target := by
  induction way generalizing here with
  | nil => exact h
  | cons name rest ih =>
    by_cases hrest : rest = []
    · subst hrest
      obtain ⟨last, hlast, hleads⟩ := hlast
      obtain rfl : name = last := Option.some.inj hlast
      rwa [List.filter_singleton, hleads] at h
    · have hlast' : ∃ name ∈ rest.getLast?, leads name = true := by
        rwa [List.getLast?_cons_of_ne_nil hrest] at hlast
      cases hleads : leads name with
      | true =>
        have hkept : rest.filter leads ≠ [] := by
          obtain ⟨last, hmem, hleads⟩ := hlast'
          exact List.ne_nil_of_mem (List.mem_filter.mpr ⟨List.mem_of_getLast? hmem, hleads⟩)
        rw [List.filter_cons_of_pos hleads, walk_cons_eq_ok hkept] at h
        obtain ⟨there, hnext, hfolder, hwalk⟩ := h
        exact (walk_cons_eq_ok hrest).mpr ⟨there, hnext, hfolder, ih hfolder hlast' hwalk⟩
      | false =>
        -- The name stays at a folder, so that the way may go on from there.
        rw [List.filter_cons_of_neg (by rw [hleads]; decide)] at h
        exact (walk_cons_eq_ok hrest).mpr
          ⟨here, next_of_not_leads hleads here, hhere, ih hhere hlast' h⟩

/-- A way whose last name leads nowhere leads to a folder. -/
theorem last_leads_of_walk (hhere : files.entry? here = some .folder)
    (h : files.walk here way = .ok target) (htarget : files.entry? target ≠ some .folder) :
    ∃ name ∈ way.getLast?, leads name = true := by
  induction way generalizing here with
  | nil =>
    rw [walk, Except.ok.injEq] at h
    exact absurd (h ▸ hhere) htarget
  | cons name rest ih =>
    by_cases hrest : rest = []
    · subst hrest
      refine ⟨name, rfl, ?_⟩
      by_contra hleads
      rw [walk_singleton, next_of_not_leads (Bool.eq_false_iff.mpr hleads),
        Except.ok.injEq] at h
      exact htarget (h ▸ hhere)
    · obtain ⟨there, -, hfolder, hwalk⟩ := (walk_cons_eq_ok hrest).mp h
      rw [List.getLast?_cons_of_ne_nil hrest]
      exact ih hfolder hwalk

theorem start_folder (files : Files) (root : String) :
    files.entry? (start root) = some .folder := by
  unfold entry?
  exact if_pos (start_fixed root)

/-- What is written to a file is read from the same path. -/
theorem Opens.open_put (h : files.Opens path place) (content : Content) :
    Files.open? (files.put place (.file content)) path = .ok content := by
  obtain ⟨way, hway, -⟩ := locate_way h.ne_empty
  obtain ⟨-, hlocate, hfolder⟩ := locate_file_iff.mp h.2
  rw [hway] at hlocate
  refine open_eq_ok_iff.mpr ⟨h.1, place, ?_, entry_put hfolder content⟩
  rw [hway]
  exact walk_put hfolder content hlocate

/-- A path whose simple form can be opened for writing has names that lead somewhere. -/
theorem Opens.leading (h : files.Opens (simplify path) place) :
    Leading ((names path).filter leads) := by
  refine leading_names (fun hnil => ?_)
  obtain ⟨hslash, hlocate, hfolder⟩ := locate_file_iff.mp h.2
  obtain ⟨-, -, hroot⟩ := root_cases path
  have hsimple : simplify path = if root path = "" then "." else root path := by
    have hempty : root path ++ "/".intercalate [] = root path := String.append_empty
    change (if root path ++ "/".intercalate ((names path).filter leads) = "" then "."
      else root path ++ "/".intercalate ((names path).filter leads)) = _
    rw [hnil, hempty]
  rcases hroot with ⟨hroot, -⟩ | hroot | hroot <;> rw [hroot] at hsimple <;>
    rw [hsimple] at hslash hlocate
  · have hdot : names "." = ["."] := by
      rw [names_eq]
      rfl
    rw [if_pos rfl, locate, hdot] at hlocate
    exact hfolder (Except.ok.inj hlocate ▸ start_folder files "")
  · exact hslash rfl
  · exact hslash rfl

theorem Leading.ne_empty (h : Leading ((Files.names path).filter leads)) : path ≠ "" := by
  rintro rfl
  refine h.1 ?_
  rw [names_eq]
  rfl

/-- The system takes the path, and its last name leads somewhere. -/
def Reopens (path : String) : Prop :=
  checkPath path = .ok () ∧ ∃ name ∈ (names path).getLast?, name ≠ "" ∧ name ≠ "."

theorem leads_iff : leads name = true ↔ name ≠ "" ∧ name ≠ "." := by
  rw [leads, Bool.and_eq_true, bne_iff_ne, bne_iff_ne]

theorem reopens_of_open (hne : path ≠ "") (h : files.open? path = .ok content) : Reopens path := by
  obtain ⟨hcheck, place, hlocate, hfile⟩ := open_eq_ok_iff.mp h
  obtain ⟨way, hway, -, hlast⟩ := locate_way hne
  have hfolder : files.entry? place ≠ some .folder := by
    rw [hfile]
    exact nofun
  rw [hway] at hlocate
  obtain ⟨name, hname, hleads⟩ :=
    last_leads_of_walk (start_folder files (root path)) hlocate hfolder
  exact ⟨hcheck, name, hlast ▸ hname, leads_iff.mp hleads⟩

theorem open_of_reopens (hkept : Leading ((names path).filter leads)) (hpath : Reopens path)
    (h : files.open? (simplify path) = .ok content) : files.open? path = .ok content := by
  obtain ⟨hcheck, last, hlast, hleads⟩ := hpath
  obtain ⟨-, place, hlocate, hfile⟩ := open_eq_ok_iff.mp h
  obtain ⟨way, hway, hfilter, hend⟩ := locate_way hkept.ne_empty
  refine open_eq_ok_iff.mpr ⟨hcheck, place, ?_, hfile⟩
  rw [locate_simplify files hkept, ← hfilter] at hlocate
  rw [hway]
  exact walk_of_filter (start_folder files (root path))
    ⟨last, hend.symm ▸ hlast, leads_iff.mpr hleads⟩ hlocate

end Propositional.Files
