import Recognizer.Files.FileSystem

/-!
# Places of files

A file is put where there is a directory to hold it. So putting it there changes what is at that
one place and nowhere else, and every path still leads where it led before, whether it begins at the
root or in the working directory, goes up and down, or passes links.
-/

namespace Recognizer.FileSystem

variable {fs fs' : FileSystem} {place other here there : Place} {node : Node} {names : List String}
  {naming : Naming} {path : String}

/-- There is something at a place: it is the root, or on the way to an entry. -/
def Known (fs : FileSystem) (place : Place) : Prop :=
  place = [] ∨ ∃ e ∈ fs.entries, place <+: e.1

/-- An entry is on the way to itself. -/
theorem known_of_lookup_entries (h : fs.entries.lookup place = some node) : fs.Known place := by
  obtain ⟨before, behind, hentries, -⟩ := List.lookup_eq_some_iff.1 h
  refine .inr ⟨(place, node), ?_, List.prefix_rfl⟩
  rw [hentries]
  exact List.mem_append_right before List.mem_cons_self

/-- What is on the way to an entry and is none itself is a directory. -/
theorem lookup_of_known (hk : fs.Known place) (h : fs.entries.lookup place = none) :
    fs.lookup place = some .directory := by
  have hway : (place.isEmpty || fs.entries.any fun e => place.isPrefixOf e.1) = true := by
    simpa [Known] using hk
  rw [lookup, h]
  exact if_pos hway

/-- Where nothing is known, there is nothing. -/
theorem lookup_of_not_known (hk : ¬ fs.Known place) : fs.lookup place = none := by
  have hway : ¬ (place.isEmpty || fs.entries.any fun e => place.isPrefixOf e.1) = true := by
    simpa [Known] using hk
  rw [lookup]
  cases h : fs.entries.lookup place with
  | some node => exact absurd (known_of_lookup_entries h) hk
  | none => exact if_neg hway

/-- What there is at a place is known. -/
theorem known_of_lookup (h : fs.lookup place = some node) : fs.Known place := by
  by_cases hk : fs.Known place
  · exact hk
  · rw [lookup_of_not_known hk] at h
    cases h

/-- Everything on the way to a place exists. -/
def Supports (fs : FileSystem) (place : Place) : Prop :=
  ∀ q, q <+: place → q ≠ place → fs.Known q

/-- Everything on the way to something that exists does so, too. -/
theorem Known.of_isPrefix (h : fs.Known place) (hp : other <+: place) : fs.Known other := by
  rcases h with rfl | ⟨e, he, hplace⟩
  · exact .inl (List.prefix_nil.1 hp)
  · exact .inr ⟨e, he, hp.trans hplace⟩

/-- Everything on the way to something that exists exists. -/
theorem Known.supports (h : fs.Known place) : fs.Supports place :=
  fun _ hp _ => h.of_isPrefix hp

/-- If the place above exists, so does everything on the way. -/
theorem supports_of_dropLast (h : fs.Known place.dropLast) : fs.Supports place := by
  intro q hp hne
  rcases place.eq_nil_or_concat with rfl | ⟨above, last, rfl⟩
  · exact absurd (List.prefix_nil.1 hp) hne
  · rw [List.concat_eq_append] at h hp hne
    rw [List.dropLast_concat] at h
    rcases List.prefix_concat_iff.1 hp with heq | hp
    · exact absurd heq hne
    · exact h.of_isPrefix hp

/-! ### Putting something at a place -/

/-- The entry for any other place stays as it was. -/
theorem lookup_entries_insert_of_ne (hne : other ≠ place) (fs : FileSystem) (node : Node) :
    (fs.insert place node).entries.lookup other = fs.entries.lookup other := by
  have hother : ∀ q, q = place → (other == q) = false := by
    rintro q rfl
    exact beq_false_of_ne hne
  rw [insert, List.lookup_cons, hother place rfl]
  dsimp only
  induction fs.entries with
  | nil => rfl
  | cons e entries ih =>
    obtain ⟨q, node⟩ := e
    by_cases hq : q = place
    · rw [List.filter_cons_of_neg (by simp [hq]), List.lookup_cons, hother q hq]
      exact ih
    · rw [List.filter_cons_of_pos (by simp [hq]), List.lookup_cons, List.lookup_cons, ih]

/-- Putting something where everything on the way exists makes nothing else exist. -/
theorem known_insert_iff (h : fs.Supports place) (hne : other ≠ place) (node : Node) :
    (fs.insert place node).Known other ↔ fs.Known other := by
  constructor
  · rintro (hup | ⟨e, he, hp⟩)
    · exact .inl hup
    · rcases List.mem_cons.1 he with rfl | he
      · exact h other hp hne
      · exact .inr ⟨e, (List.mem_filter.1 he).1, hp⟩
  · rintro (hup | ⟨e, he, hp⟩)
    · exact .inl hup
    · by_cases hplace : e.1 = place
      · exact .inr ⟨(place, node), List.mem_cons_self, hplace ▸ hp⟩
      · exact .inr ⟨e, List.mem_cons_of_mem _ (List.mem_filter.2 ⟨he, by simp [hplace]⟩), hp⟩

/-- What is put at a place is there. -/
theorem lookup_insert_self (fs : FileSystem) (place : Place) (node : Node) :
    (fs.insert place node).lookup place = some node := by
  rw [lookup, insert, List.lookup_cons_self]

/-- At any other place there is what there was. -/
theorem lookup_insert_of_ne (h : fs.Supports place) (hne : other ≠ place) (node : Node) :
    (fs.insert place node).lookup other = fs.lookup other := by
  have hentries := lookup_entries_insert_of_ne hne fs node
  have hknown := known_insert_iff h hne node
  by_cases hk : fs.Known other
  · cases ho : fs.entries.lookup other with
    | some found => rw [lookup, lookup, hentries, ho]
    | none =>
      rw [lookup_of_known hk ho, lookup_of_known (hknown.2 hk) (hentries.trans ho)]
  · rw [lookup_of_not_known hk, lookup_of_not_known (mt hknown.1 hk)]

/-- What is put at a place whose way exists is there, and nothing else has changed. -/
theorem lookup_insert (h : fs.Supports place) (node : Node) (other : Place) :
    (fs.insert place node).lookup other = if other = place then some node else fs.lookup other := by
  split
  · next heq => rw [heq, lookup_insert_self]
  · next hne => exact lookup_insert_of_ne h hne node

/-! ### Following a path -/

/-- There has to be a directory, and nothing else is checked. -/
theorem directoryAt_eq_ok_iff :
    fs.directoryAt place = .ok other ↔ fs.lookup place = some .directory ∧ place = other := by
  rw [directoryAt]
  split <;> simp [*]

/-- A file can be where there is no directory, but one to hold it. -/
theorem fileAt_eq_ok_iff : fs.fileAt place = .ok other ↔
    fs.lookup place ≠ some .directory ∧ fs.lookup place.dropLast = some .directory ∧
      place = other := by
  rw [fileAt]
  split
  · next hd => simp [hd]
  · next hfile =>
    rw [directoryAt]
    split <;> simp [*, Except.map]

/-- What follows a success is a success of both. -/
theorem bind_eq_ok_iff {α β : Type} {x : Except FileError α} {f : α → Except FileError β} {b : β} :
    x.bind f = .ok b ↔ ∃ a, x = .ok a ∧ f a = .ok b := by
  cases x <;> simp [Except.bind]

/-- Two file systems with the same directories. -/
def SameDirectories (fs fs' : FileSystem) : Prop :=
  ∀ q, fs.lookup q = some .directory ↔ fs'.lookup q = some .directory

/-- Only directories matter to a walk that succeeds. -/
theorem SameDirectories.walk (h : SameDirectories fs fs')
    (hw : fs.walk naming here names = .ok there) : fs'.walk naming here names = .ok there := by
  fun_induction FileSystem.walk fs naming here names with
  | case1 here => exact hw
  | case2 here name names hstay ih => rw [FileSystem.walk, if_pos hstay, ih hw]
  | case3 here names hstay ih => rw [FileSystem.walk, if_neg hstay, if_pos rfl, ih hw]
  | case4 => cases hw
  | case5 here name names hstay hup place hplace ih =>
    have hplace' : (naming.follow (here ++ [name])).bind fs'.directoryAt = .ok place := by
      obtain ⟨found, hfollow, hd⟩ := bind_eq_ok_iff.1 hplace
      obtain ⟨hlookup, rfl⟩ := directoryAt_eq_ok_iff.1 hd
      exact bind_eq_ok_iff.2
        ⟨found, hfollow, directoryAt_eq_ok_iff.2 ⟨(h found).1 hlookup, rfl⟩⟩
    rw [FileSystem.walk, if_neg hstay, if_neg hup, hplace']
    exact ih hw

/-- How a path leads to the place of a file: along directories to the last name, and from there to
where that leads, at which there is no directory, but one to hold the file. -/
theorem target_eq_ok_iff : fs.target naming path = .ok place ↔
    let all := namesOf path
    let names := (all.reverse.dropWhile (· == "")).reverse
    let last := names.getLastD ""
    path ≠ "" ∧ namesDirectory last = false ∧ all.length ≤ names.length ∧
      ∃ here, fs.walk naming (naming.start path) names.dropLast = .ok here ∧
        naming.follow (here ++ [last]) = .ok place ∧
        fs.lookup place ≠ some .directory ∧ fs.lookup place.dropLast = some .directory := by
  rw [target]
  dsimp only
  generalize namesOf path = all
  generalize (all.reverse.dropWhile (· == "")).reverse = names
  generalize names.getLastD "" = last
  by_cases hempty : path = ""
  · simp [hempty]
  · rw [if_neg hempty]
    cases hlast : namesDirectory last with
    | true =>
      rw [if_pos rfl]
      cases fs.walk naming (naming.start path) names <;> simp
    | false =>
      rw [if_neg Bool.false_ne_true]
      cases fs.walk naming (naming.start path) names.dropLast with
      | error e => simp
      | ok here =>
        dsimp only
        by_cases hlength : all.length ≤ names.length
        · rw [Bool.false_or, if_neg (by simpa using hlength)]
          constructor
          · intro h
            obtain ⟨found, hfollow, hfound⟩ := bind_eq_ok_iff.1 h
            obtain ⟨hfile, hholder, rfl⟩ := fileAt_eq_ok_iff.1 hfound
            exact ⟨hempty, rfl, hlength, here, rfl, hfollow, hfile, hholder⟩
          · rintro ⟨-, -, -, _, hhere, hfollow, hfile, hholder⟩
            cases hhere
            exact bind_eq_ok_iff.2 ⟨place, hfollow, fileAt_eq_ok_iff.2 ⟨hfile, hholder, rfl⟩⟩
        · simp [hlength, Nat.lt_of_not_le hlength]

/-- Everything on the way to where a path leads exists, and there is no directory. -/
theorem supports_of_target (h : fs.target naming path = .ok place) :
    fs.Supports place ∧ fs.lookup place ≠ some .directory := by
  obtain ⟨-, -, -, here, -, -, hfile, hholder⟩ := target_eq_ok_iff.1 h
  exact ⟨supports_of_dropLast (known_of_lookup hholder), hfile⟩

/-- A path leads to the same place if the directories are the same. -/
theorem SameDirectories.target (h : SameDirectories fs fs')
    (ht : fs.target naming path = .ok place) : fs'.target naming path = .ok place := by
  obtain ⟨hempty, hlast, hlength, here, hwalk, hfollow, hfile, hholder⟩ := target_eq_ok_iff.1 ht
  exact target_eq_ok_iff.2
    ⟨hempty, hlast, hlength, here, h.walk hwalk, hfollow, mt (h place).2 hfile, (h _).1 hholder⟩

/-- What a path leads to for writing is what it leads to for reading. -/
theorem read_of_target {content : List UInt8} (h : fs.target naming path = .ok place)
    (hfile : fs.lookup place = some (.file content)) : fs.read naming path = .ok content := by
  obtain ⟨hempty, hlast, hlength, here, hwalk, hfollow, -, -⟩ := target_eq_ok_iff.1 h
  have hnames : ((namesOf path).reverse.dropWhile (· == "")).reverse = namesOf path := by
    have hsuffix := List.dropWhile_suffix (· == "") (l := (namesOf path).reverse)
    have hkept : (namesOf path).reverse.length ≤
        ((namesOf path).reverse.dropWhile (· == "")).length := by
      simpa using hlength
    rw [hsuffix.eq_of_length_le hkept, List.reverse_reverse]
  rw [hnames] at hlast hwalk hfollow
  rw [read, if_neg hempty, hlast, if_neg Bool.false_ne_true, hwalk]
  dsimp only
  rw [hfollow]
  dsimp only
  rw [hfile]

/-- Putting a file where there is no directory changes no directory. -/
theorem sameDirectories_insert (h : fs.Supports place) (hfile : fs.lookup place ≠ some .directory)
    (content : List UInt8) : SameDirectories fs (fs.insert place (.file content)) := by
  intro q
  rw [lookup_insert h]
  split
  · next heq =>
    rw [heq]
    exact ⟨fun hd => absurd hd hfile, nofun⟩
  · exact Iff.rfl

/-- Several changes that each leave the directories alone do so together. -/
theorem SameDirectories.trans {fs'' : FileSystem} (h : SameDirectories fs fs')
    (h' : SameDirectories fs' fs'') : SameDirectories fs fs'' :=
  fun q => (h q).trans (h' q)

/-! ### Files -/

/-- What opening a path for writing does, if it leads somewhere. -/
theorem create_eq (h : fs.target naming path = .ok place) :
    fs.create naming path = (.ok place, fs.insert place (.file [])) := by
  rw [create, h]

/-- Writing behind the content of a file appends to it. -/
theorem overwrite_length {content : List UInt8} (h : fs.lookup place = some (.file content))
    (bytes : List UInt8) :
    fs.overwrite place content.length bytes = fs.insert place (.file (content ++ bytes)) := by
  rw [overwrite, contentAt, h]
  dsimp only
  rw [patch_length]

end Recognizer.FileSystem
