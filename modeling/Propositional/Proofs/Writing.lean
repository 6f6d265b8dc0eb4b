import Mathlib.Data.String.Basic
import Propositional.Files
import Propositional.Proofs.Filling

namespace Propositional

theorem Place.same_iff {a b : Place} : a.same b = true ↔ a = b := by
  rw [Place.same, Bool.and_eq_true, beq_iff_eq, beq_iff_eq]
  exact and_iff_right_of_imp (congrArg List.length)

namespace Files
variable {files : Files}

theorem place_of_find (h : files.entries.find? (place.same ·.1) = some e) : place = e.1 :=
  Place.same_iff.mp (List.find?_some (p := fun e : Place × Entry => place.same e.1) h)

/-- What a place holds after something is put there or elsewhere. -/
theorem find_put (files : Files) (place other : Place) (entry : Entry) :
    (files.put place entry).entries.find? (other.same ·.1) =
      if other = place then some (place, entry) else files.entries.find? (other.same ·.1) := by
  rw [put]
  split
  · next hany =>
    dsimp only
    rw [List.find?_map]
    by_cases hother : other = place
    · subst hother
      have hsame : (other.same ·.1) ∘
          (fun e : Place × Entry => if other.same e.1 then (other, entry) else e) =
            (other.same ·.1) := by
        funext e
        simp only [Function.comp]
        split
        · next he => rw [he]; exact Place.same_iff.mpr rfl
        · rfl
      rw [hsame, if_pos rfl]
      cases hfind : files.entries.find? (other.same ·.1) with
      | none =>
        obtain ⟨e, he, heq⟩ := List.any_eq_true.mp hany
        exact absurd heq (List.find?_eq_none.mp hfind e he)
      | some e =>
        rw [Option.map_some, if_pos (Place.same_iff.mpr (place_of_find hfind))]
    · have hsame : (other.same ·.1) ∘
          (fun e : Place × Entry => if place.same e.1 then (place, entry) else e) =
            (other.same ·.1) := by
        funext e
        simp only [Function.comp]
        split
        · next he => rw [Place.same_iff.mp he]
        · rfl
      rw [hsame, if_neg hother]
      cases hfind : files.entries.find? (other.same ·.1) with
      | none => rfl
      | some e =>
        have hplace : ¬place.same e.1 = true := fun hp =>
          hother ((place_of_find hfind).trans (Place.same_iff.mp hp).symm)
        rw [Option.map_some, if_neg hplace]
  · next hany =>
    dsimp only
    rw [List.find?_append]
    by_cases hother : other = place
    · subst hother
      have hnone : files.entries.find? (other.same ·.1) = none :=
        List.find?_eq_none.mpr (fun e he heq => hany (List.any_eq_true.mpr ⟨e, he, heq⟩))
      have hself : other.same other = true := Place.same_iff.mpr rfl
      rw [hnone, if_pos rfl, Option.none_or]
      exact List.find?_cons_of_pos hself
    · have hself : ¬other.same place = true := fun h => hother (Place.same_iff.mp h)
      rw [if_neg hother]
      rw [List.find?_cons_of_neg (by exact hself), List.find?_nil, Option.or_none]

/-- A file is somewhere only if it is listed there. -/
theorem entry_eq_file_iff :
    files.entry? place = some (.file content) ↔ place.isFixed = false ∧
      files.entries.find? (place.same ·.1) = some (place, .file content) := by
  unfold entry?
  cases place.isFixed with
  | true => simp
  | false =>
    rw [if_neg Bool.false_ne_true, and_iff_right rfl]
    cases hfind : files.entries.find? (place.same ·.1) with
    | none =>
      dsimp only
      split <;> simp
    | some e =>
      obtain ⟨found, entry⟩ := e
      obtain rfl : place = found := place_of_find hfind
      simp

theorem entry_put (h : files.entry? place ≠ some .folder) (content : Content) :
    Files.entry? (files.put place (.file content)) place = some (.file content) := by
  rw [entry_eq_file_iff, find_put, if_pos rfl]
  refine ⟨?_, rfl⟩
  rw [Bool.eq_false_iff]
  intro hfixed
  apply h
  unfold entry?
  exact if_pos hfixed

theorem file_put_iff (h : other ≠ place) :
    Files.entry? (files.put place entry) other = some (.file content) ↔
      files.entry? other = some (.file content) := by
  rw [entry_eq_file_iff, entry_eq_file_iff, find_put, if_neg h]

/-- A path that can be opened for writing leads to a place that is no folder. -/
def Opens (files : Files) (path : String) (place : Place) : Prop :=
  checkPath path = .ok () ∧ files.locateFile path = .ok place

theorem write_of_opens (h : files.Opens path place) (text : String) :
    files.write path text = .ok (files.put place (.file (.text text))) := by
  rw [write, h.1]
  change ((files.locateFile path).mapError _ >>= _) = _
  rw [h.2]
  rfl

/-- Where a file can be written: at a path that does not end with a slash, and not in place of a
folder. -/
theorem locate_file_iff : files.locateFile path = .ok place ↔
    path.toList.getLast? ≠ some '/' ∧ files.locate path = .ok place ∧
      files.entry? place ≠ some .folder := by
  by_cases hlast : path.toList.getLast? = some '/'
  · refine iff_of_false (fun h => ?_) (fun h => h.1 hlast)
    simp only [locateFile, hlast, if_true] at h
    split at h
    · cases hup : files.locate (dropLastName path) with
      | error e =>
        rw [hup] at h
        cases h
      | ok up =>
        rw [hup] at h
        cases h
    · cases h
  · simp only [locateFile, hlast, if_false, ne_eq, not_false_eq_true, true_and]
    cases files.locate path with
    | error e => exact iff_of_false nofun (fun h => nomatch h.1)
    | ok found =>
      simp only [bind, Except.bind, beq_iff_eq, Except.ok.injEq]
      split
      · next hfolder => exact iff_of_false nofun (fun h => h.2 (h.1 ▸ hfolder))
      · next hfolder =>
        constructor
        · intro h
          obtain rfl := Except.ok.inj h
          exact ⟨rfl, hfolder⟩
        · exact fun h => congrArg Except.ok h.1

/-- Names that lead somewhere else. -/
def leads (name : String) : Bool := name != "" && name != "."

theorem next_of_not_leads (h : leads name = false) (place : Place) :
    next place name = .ok place := by
  have hname : name = "" ∨ name = "." := by
    by_contra hne
    rw [not_or] at hne
    rw [leads, bne_iff_ne.mpr hne.1, bne_iff_ne.mpr hne.2] at h
    cases h
  rcases hname with rfl | rfl
  · rfl
  · rfl

theorem walk_cons_eq_ok (hrest : rest ≠ []) : files.walk place (name :: rest) = .ok target ↔
    ∃ here, next place name = .ok here ∧ files.entry? here = some .folder ∧
      files.walk here rest = .ok target := by
  obtain ⟨name', rest, rfl⟩ := List.exists_cons_of_ne_nil hrest
  rw [walk]
  simp only [bind, Except.bind, List.isEmpty_cons, Bool.false_eq_true, if_false]
  cases next place name with
  | error e =>
    refine iff_of_false (fun h => ?_) ?_
    · cases h
    · rintro ⟨here, h, -⟩
      cases h
  | ok here =>
    have hhere : ∀ here', (Except.ok here : Except FileFault Place) = .ok here' ↔ here' = here :=
      fun here' => by rw [Except.ok.injEq, eq_comm]
    simp only [hhere, exists_eq_left]
    cases hentry : files.entry? here with
    | none => simp
    | some entry =>
      cases entry with
      | file content => simp
      | folder => simp

theorem walk_singleton (files : Files) (place : Place) (name : String) :
    files.walk place [name] = next place name := by
  rw [walk]
  cases next place name with
  | error e => rfl
  | ok here => rfl

/-- Without the names that lead nowhere else, the way leads to the same place. -/
theorem walk_filter (h : files.walk place way = .ok target) :
    files.walk place (way.filter leads) = .ok target := by
  induction way generalizing place with
  | nil => exact h
  | cons name rest ih =>
    by_cases hrest : rest = []
    · subst hrest
      rw [walk_singleton] at h
      cases hleads : leads name with
      | true => rwa [List.filter_singleton, hleads, Bool.cond_true, walk_singleton]
      | false =>
        rw [next_of_not_leads hleads] at h
        rwa [List.filter_singleton, hleads, Bool.cond_false, walk]
    · obtain ⟨here, hnext, hfolder, hwalk⟩ := (walk_cons_eq_ok hrest).mp h
      have hkept := ih hwalk
      cases hleads : leads name with
      | true =>
        rw [List.filter_cons_of_pos hleads]
        by_cases hnil : rest.filter leads = []
        · rw [hnil] at hkept ⊢
          rwa [walk_singleton, hnext]
        · exact (walk_cons_eq_ok hnil).mpr ⟨here, hnext, hfolder, hkept⟩
      | false =>
        rw [next_of_not_leads hleads] at hnext
        rwa [List.filter_cons_of_neg (by rw [hleads]; decide), Except.ok.inj hnext]

theorem names_eq (path : String) : names path = (path.toList.splitOn '/').map String.ofList :=
  String.splitToList_of_valid path (· == '/')

theorem names_ne_nil (path : String) : names path ≠ [] := by
  rw [names_eq]
  exact fun h => List.splitOn_ne_nil '/' path.toList (List.map_eq_nil_iff.mp h)

theorem names_slash (path : String) : names ("/" ++ path) = "" :: names path := by
  have hpath : ("/" ++ path).toList = '/' :: path.toList := String.toList_append
  rw [names_eq, names_eq, hpath, List.splitOn_cons_eq_if_modifyHead,
    if_pos (beq_self_eq_true '/')]
  rfl

theorem slash_not_mem_names (h : name ∈ names path) : '/' ∉ name.toList := by
  rw [names_eq, ← Console.parts_eq_split] at h
  obtain ⟨part, hpart, rfl⟩ := List.mem_map.mp h
  rw [String.toList_ofList]
  exact fun hc => (Console.mem_parts hpart hc).2 rfl

theorem intercalate_names (path : String) : "/".intercalate (names path) = path := by
  have htexts : (names path).map String.toList = path.toList.splitOn '/' := by
    rw [names_eq, List.map_map]
    exact List.map_id'' (fun _ => String.toList_ofList) _
  rw [← String.toList_inj, String.toList_intercalate, htexts]
  exact List.intercalate_splitOn '/'

theorem names_intercalate (hne : way ≠ []) (h : ∀ name ∈ way, '/' ∉ name.toList) :
    names ("/".intercalate way) = way := by
  have hslash : ∀ part ∈ way.map String.toList, '/' ∉ part := by
    simpa using h
  rw [names_eq, String.toList_intercalate]
  change (List.splitOn '/' (['/'].intercalate (way.map String.toList))).map String.ofList = way
  rw [List.splitOn_intercalate '/' hslash (by simpa using hne), List.map_map]
  exact List.map_id'' (fun _ => String.ofList_toList) way

/-- A path begins with what it keeps of its slashes. -/
theorem root_cases (path : String) : ∃ more, path = root path ++ more ∧
    (root path = "" ∧ path.toList.head? ≠ some '/' ∨ root path = "/" ∨ root path = "//") := by
  have hsplit := List.takeWhile_append_dropWhile (p := (· == '/')) (l := path.toList)
  have hslashes : path.toList.takeWhile (· == '/') =
      List.replicate (path.toList.takeWhile (· == '/')).length '/' :=
    List.eq_replicate_of_mem (fun c hc => by simpa using List.mem_takeWhile_imp hc)
  have hhead : path.toList.takeWhile (· == '/') = [] → path.toList.head? ≠ some '/' := by
    intro hnil hhead
    obtain ⟨rest, hrest⟩ := List.head?_eq_some_iff.mp hhead
    rw [hrest, List.takeWhile_cons_of_pos (by rfl)] at hnil
    cases hnil
  rw [root]
  generalize path.toList.takeWhile (· == '/') = slashes at hsplit hslashes hhead ⊢
  generalize path.toList.dropWhile (· == '/') = behind at hsplit
  have hpath : ∀ root more : List Char, slashes ++ behind = root ++ more →
      path = String.ofList root ++ String.ofList more := by
    intro root more h
    rw [← String.ofList_append, ← h, hsplit, String.ofList_toList]
  split
  · next hlength =>
    exact ⟨path, String.empty_append.symm, .inl ⟨rfl, hhead (List.length_eq_zero_iff.mp hlength)⟩⟩
  · next hlength =>
    rw [hslashes, hlength] at hpath
    exact ⟨String.ofList behind, hpath ['/', '/'] behind rfl, .inr (.inr rfl)⟩
  · next hzero _ =>
    obtain ⟨more, hmore⟩ := Nat.exists_eq_succ_of_ne_zero hzero
    rw [hslashes, hmore] at hpath
    exact ⟨_, hpath ['/'] (List.replicate more '/' ++ behind) rfl, .inr (.inl rfl)⟩

/-- The folder where the way of a path begins. -/
def start (root : String) : Place := if root = "" then [] else [""]

theorem start_fixed (root : String) : (start root).isFixed = true := by
  rw [start]
  split
  · rfl
  · rfl

/-- A path whose slashes are kept is walked from where its root is. -/
theorem locate_root
    (hlead : lead = "" ∧ (names more).head? ≠ some "" ∨ lead = "/" ∨ lead = "//") :
    files.locate (lead ++ more) = files.walk (start lead) (names more) := by
  obtain ⟨name, way, hnames⟩ := List.exists_cons_of_ne_nil (names_ne_nil more)
  rcases hlead with ⟨rfl, hhead⟩ | rfl | rfl
  · rw [String.empty_append, locate, hnames]
    rw [hnames] at hhead
    split
    · next heq =>
      rw [(List.cons.inj heq).1] at hhead
      exact absurd rfl hhead
    · rfl
  · rw [locate, names_slash, hnames]
    rfl
  · have hlead : "//" ++ more = "/" ++ ("/" ++ more) := by
      rw [← String.append_assoc]
      rfl
    rw [hlead, locate, names_slash, names_slash, hnames]
    rfl

/-- The slashes that a path keeps make no name that leads anywhere. -/
theorem names_root (hlead : lead = "" ∨ lead = "/" ∨ lead = "//") (more : String) :
    ∃ blanks, names (lead ++ more) = blanks ++ names more ∧ blanks.filter leads = [] := by
  rcases hlead with rfl | rfl | rfl
  · exact ⟨[], by rw [String.empty_append, List.nil_append], rfl⟩
  · exact ⟨[""], names_slash more, rfl⟩
  · have hlead : "//" ++ more = "/" ++ ("/" ++ more) := by
      rw [← String.append_assoc]
      rfl
    exact ⟨["", ""], by rw [hlead, names_slash, names_slash]; rfl, rfl⟩

/-- Fewer parts joined are a part of the text joined from all. -/
theorem intercalate_sublist {parts whole : List (List Char)} (separator : List Char)
    (h : parts.Sublist whole) :
    (separator.intercalate parts).Sublist (separator.intercalate whole) := by
  induction h with
  | slnil => exact List.Sublist.refl _
  | @cons parts whole part h ih =>
    by_cases hwhole : whole = []
    · subst hwhole
      rw [List.sublist_nil.mp h]
      exact List.nil_sublist _
    · rw [List.intercalate_cons_of_ne_nil hwhole]
      exact ih.trans (List.sublist_append_right _ _)
  | @cons_cons parts whole part h ih =>
    by_cases hparts : parts = []
    · rw [hparts, List.intercalate_singleton]
      by_cases hwhole : whole = []
      · rw [hwhole, List.intercalate_singleton]
      · rw [List.intercalate_cons_of_ne_nil hwhole, List.append_assoc]
        exact List.sublist_append_left _ _
    · have hwhole : whole ≠ [] := by
        rintro rfl
        exact hparts (List.sublist_nil.mp h)
      rw [List.intercalate_cons_of_ne_nil hparts, List.intercalate_cons_of_ne_nil hwhole]
      exact (List.Sublist.refl _).append ih

theorem last_intercalate {parts : List (List Char)} (hne : parts ≠ [])
    (h : ∀ part ∈ parts, part ≠ [] ∧ separator ∉ part) :
    ∃ c ∈ ([separator].intercalate parts).getLast?, c ≠ separator := by
  induction parts with
  | nil => exact absurd rfl hne
  | cons part parts ih =>
    rw [List.forall_mem_cons] at h
    by_cases hparts : parts = []
    · subst hparts
      rw [List.intercalate_singleton]
      refine ⟨_, List.getLast?_eq_some_getLast h.1.1, ?_⟩
      exact fun hlast => h.1.2 (hlast ▸ List.getLast_mem h.1.1)
    · obtain ⟨c, hlast, hc⟩ := ih hparts h.2
      rw [List.intercalate_cons_of_ne_nil hparts, List.getLast?_append, hlast]
      exact ⟨c, rfl, hc⟩

theorem check_path_of_sublist (h : simple.toList.Sublist path.toList)
    (hpath : checkPath path = .ok ()) : checkPath simple = .ok () := by
  rw [checkPath] at hpath ⊢
  split at hpath
  · cases hpath
  · next hnul =>
    split at hpath
    · cases hpath
    · next hbytes =>
      have hlength := String.utf8Len_le_of_sublist h
      rw [String.utf8Len_toList, String.utf8Len_toList] at hlength
      have hnul' : ¬simple.toList.contains '\x00' = true := by
        rw [List.contains_iff_mem] at hnul ⊢
        exact fun hc => hnul (h.subset hc)
      rw [if_neg hnul', if_neg (by omega)]

theorem head_names (hhead : path.toList.head? ≠ some '/') (hne : path ≠ "") :
    (names path).head? ≠ some "" := by
  intro hempty
  obtain ⟨way, hway⟩ := List.head?_eq_some_iff.mp hempty
  have hpath := intercalate_names path
  rw [hway] at hpath
  by_cases hnil : way = []
  · rw [hnil, String.intercalate_singleton] at hpath
    exact hne hpath.symm
  · rw [String.intercalate_cons_of_ne_nil hnil, String.empty_append] at hpath
    rw [← hpath, String.toList_append] at hhead
    exact hhead rfl

/-- A folder cannot be where nothing leads. -/
theorem filter_leads_ne_nil (hwalk : files.walk (start lead) way = .ok place)
    (hfolder : files.entry? place ≠ some .folder) : way.filter leads ≠ [] := by
  intro hnil
  have hkept := walk_filter hwalk
  rw [hnil, walk] at hkept
  refine hfolder ?_
  rw [← Except.ok.inj hkept, entry?, if_pos (start_fixed lead)]

/-- Names that lead somewhere. -/
def Leading (way : List String) : Prop :=
  way ≠ [] ∧ ∀ name ∈ way, name ≠ "" ∧ '/' ∉ name.toList

theorem Leading.last (h : Leading way) (root : String) :
    ∃ c ∈ (root ++ "/".intercalate way).toList.getLast?, c ≠ '/' := by
  have hparts : ∀ part ∈ way.map String.toList, part ≠ [] ∧ '/' ∉ part := by
    intro part hpart
    obtain ⟨name, hname, rfl⟩ := List.mem_map.mp hpart
    exact ⟨fun hnil => (h.2 name hname).1 (String.toList_eq_nil_iff.mp hnil), (h.2 name hname).2⟩
  obtain ⟨c, hlast, hc⟩ := last_intercalate (by simpa using h.1) hparts
  refine ⟨c, ?_, hc⟩
  have htext : ("/".intercalate way).toList.getLast? = some c := by
    rw [String.toList_intercalate]
    exact hlast
  rw [String.toList_append, List.getLast?_append, htext]
  rfl

theorem Leading.names (h : Leading way) : names ("/".intercalate way) = way :=
  names_intercalate h.1 (fun name hname => (h.2 name hname).2)

theorem simplify_eq (h : Leading ((names path).filter leads)) :
    simplify path = root path ++ "/".intercalate ((names path).filter leads) := by
  refine if_neg (fun hempty => ?_)
  obtain ⟨c, hc, -⟩ := h.last (root path)
  have hnil : (root path ++ "/".intercalate ((names path).filter leads)).toList = [] :=
    congrArg String.toList hempty
  rw [hnil] at hc
  cases hc

theorem Opens.ne_empty (h : files.Opens path place) : path ≠ "" := by
  rintro rfl
  have hnames : names "" = [""] := by
    rw [names_eq]
    rfl
  have hlocate := (locate_file_iff.mp h.2).2.1
  rw [locate, hnames] at hlocate
  cases hlocate

theorem leading_names (h : (names path).filter leads ≠ []) :
    Leading ((names path).filter leads) := by
  refine ⟨h, fun name hname => ?_⟩
  obtain ⟨hname, hleads⟩ := List.mem_filter.mp hname
  refine ⟨?_, slash_not_mem_names hname⟩
  rintro rfl
  cases hleads

/-- A path is a way from its root, on which the same names lead somewhere. -/
theorem locate_way (hne : path ≠ "") : ∃ way,
    (∀ files : Files, files.locate path = files.walk (start (root path)) way) ∧
      way.filter leads = (names path).filter leads ∧ way.getLast? = (names path).getLast? := by
  obtain ⟨more, hpath, hroot⟩ := root_cases path
  have hhead : root path = "" ∧ (names more).head? ≠ some "" ∨ root path = "/" ∨
      root path = "//" := by
    refine hroot.imp_left (fun ⟨hempty, hhead⟩ => ⟨hempty, ?_⟩)
    rw [hempty, String.empty_append] at hpath
    exact hpath ▸ head_names hhead hne
  obtain ⟨blanks, hnames, hblanks⟩ := names_root (hroot.imp_left And.left) more
  rw [← hpath] at hnames
  refine ⟨names more, fun files => ?_, ?_, ?_⟩
  · rw [← locate_root hhead, ← hpath]
  · rw [hnames, List.filter_append, hblanks, List.nil_append]
  · rw [hnames, List.getLast?_append_of_ne_nil _ (names_ne_nil more)]

/-- The simple form of a path is the way from its root of the names that lead somewhere. -/
theorem locate_simplify (files : Files) (h : Leading ((names path).filter leads)) :
    files.locate (simplify path) =
      files.walk (start (root path)) ((names path).filter leads) := by
  obtain ⟨-, -, hroot⟩ := root_cases path
  rw [simplify_eq h, locate_root (hroot.imp_left (fun hempty => ⟨hempty.1, ?_⟩)), h.names]
  rw [h.names]
  exact fun hempty => (h.2 "" (List.mem_of_head? hempty)).1 rfl

theorem simplify_sublist (h : Leading ((names path).filter leads)) :
    (simplify path).toList.Sublist path.toList := by
  obtain ⟨more, hpath, hroot⟩ := root_cases path
  obtain ⟨blanks, hnames, hblanks⟩ := names_root (hroot.imp_left And.left) more
  rw [← hpath] at hnames
  have hkept : (names path).filter leads = (names more).filter leads := by
    rw [hnames, List.filter_append, hblanks, List.nil_append]
  have htext : ("/".intercalate ((names more).filter leads)).toList.Sublist more.toList := by
    have hmore := congrArg String.toList (intercalate_names more)
    rw [String.toList_intercalate] at hmore ⊢
    rw [← hmore]
    exact intercalate_sublist _ (List.filter_sublist.map String.toList)
  have hwhole := (List.Sublist.refl (root path).toList).append htext
  rwa [← String.toList_append, ← String.toList_append, ← hkept, ← simplify_eq h, ← hpath] at hwhole

/-- If a path can be opened for writing, so can its simple form, and it is the same file. -/
theorem opens_simplify (h : files.Opens path place) : files.Opens (simplify path) place := by
  obtain ⟨way, hway, hfilter, -⟩ := locate_way h.ne_empty
  obtain ⟨hcheck, hfile⟩ := h
  obtain ⟨-, hlocate, hfolder⟩ := locate_file_iff.mp hfile
  rw [hway] at hlocate
  have hkept := leading_names (hfilter ▸ filter_leads_ne_nil hlocate hfolder)
  refine ⟨check_path_of_sublist (simplify_sublist hkept) hcheck,
    locate_file_iff.mpr ⟨?_, ?_, hfolder⟩⟩
  · obtain ⟨c, hlast, hc⟩ := hkept.last (root path)
    rw [simplify_eq hkept, Option.mem_def.mp hlast]
    exact fun hslash => hc (Option.some.inj hslash)
  · rw [locate_simplify files hkept, ← hfilter]
    exact walk_filter hlocate

end Files
end Propositional
