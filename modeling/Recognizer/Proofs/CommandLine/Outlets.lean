import Recognizer.CommandLine.Run
import Recognizer.Proofs.Files.Places
import Recognizer.Proofs.Output.Spooling

/-!
# Destinations of a command

A destination is a file of its own or a standard stream. Opening it empties the file, and what is
delivered to it stands behind what was delivered before. Neither of these changes anything else in a
machine, whatever becomes of the other destination in between.
-/

namespace Recognizer

open FileSystem

/-- What has been written to the destinations of a command. -/
abbrev Contents :=
  Channel → List UInt8

/-- Bytes added for one of the destinations. -/
def Contents.add (content : Contents) (c : Channel) (bytes : List UInt8) : Contents :=
  fun c' => content c' ++ if c = c' then bytes else []

/-- What is added for a destination stands behind what it had. -/
theorem Contents.add_self (content : Contents) (c : Channel) (bytes : List UInt8) :
    content.add c bytes c = content c ++ bytes := by
  rw [add, if_pos rfl]

/-- Nothing is added for the other destination. -/
theorem Contents.add_of_ne {c c' : Channel} (h : c ≠ c') (content : Contents)
    (bytes : List UInt8) : content.add c bytes c' = content c' := by
  rw [add, if_neg h, List.append_nil]

/-- Adding no bytes changes nothing. -/
theorem Contents.add_nil (content : Contents) (c : Channel) : content.add c [] = content := by
  funext c'
  rw [add, ite_self, List.append_nil]

/-- Where the destinations of a command lead: to an open file, given by its number and its place, or
to a standard stream. -/
abbrev Outlets :=
  Channel → Option (Nat × Place)

/-- Where a destination is when it has been opened: at the place of a file, or at none if it is a
standard stream. -/
def FileSystem.destination (fs : FileSystem) (naming : Naming) :
    Option String → Except FileError (Option Place)
  | none => .ok none
  | some path => (fs.create naming path).1.map some

/-- A destination that is named leads to the place of a file. -/
theorem FileSystem.exists_target_of_destination {fs : FileSystem} {naming : Naming}
    {path : String} {found : Option Place} (h : fs.destination naming (some path) = .ok found) :
    ∃ place, fs.target naming path = .ok place ∧ found = some place := by
  rw [destination, create] at h
  cases htarget : fs.target naming path with
  | error e =>
    rw [htarget] at h
    cases h
  | ok place =>
    rw [htarget] at h
    cases h
    exact ⟨place, rfl, rfl⟩

namespace Machine

/-- What has been written to the standard stream that stands in for a destination. -/
def stream (host : Machine) : Channel → List UInt8
  | .tokens => host.output
  | .errors => host.error

/-- Write to the standard stream that stands in for a destination. -/
def writeStream : Channel → List UInt8 → StateM Machine (Option OutputError)
  | .tokens => writeOutput
  | .errors => writeError

/-- What a command cannot change on a machine: how names lead to places, and how a syntax error is
shown. -/
structure SameSetting (before host : Machine) : Prop where
  /-- Names lead to places in the same way. -/
  naming_eq : host.naming = before.naming
  /-- Syntax errors are shown in the same way. -/
  rendering_eq : host.rendering = before.rendering

/-- What two steps leave as it was, both together do. -/
theorem SameSetting.trans {before middle host : Machine} (h : before.SameSetting middle)
    (h' : middle.SameSetting host) : before.SameSetting host :=
  ⟨h'.naming_eq.trans h.naming_eq, h'.rendering_eq.trans h.rendering_eq⟩

/-- One action after another. -/
theorem run_bind {α β : Type} (x : StateM Machine α) (f : α → StateM Machine β) (host : Machine) :
    (x >>= f) host = f (x host).1 (x host).2 :=
  rfl

/-- A standard stream takes everything, and nothing else changes. -/
theorem exists_writeStream (c : Channel) (bytes : List UInt8) (host : Machine) :
    ∃ host', writeStream c bytes host = (none, host') ∧ host.SameSetting host' ∧
      host'.files = host.files ∧ host'.opened = host.opened ∧
      host'.stream = Contents.add host.stream c bytes := by
  cases c with
  | tokens =>
    refine ⟨_, rfl, ⟨rfl, rfl⟩, rfl, rfl, ?_⟩
    funext c'
    cases c' <;> simp [stream, Contents.add]
  | errors =>
    refine ⟨_, rfl, ⟨rfl, rfl⟩, rfl, rfl, ?_⟩
    funext c'
    cases c' <;> simp [stream, Contents.add]

/-- In the machine `after`, lines have been written to a destination since `before`: a file that is
named holds them and nothing else, and a standard stream has got them in addition. -/
structure Received (before after : Machine) (c : Channel) (named : Option String)
    (found : Option Place) (lines : List UInt8) : Prop where
  /-- The file that is read under the name of the destination holds the lines. -/
  read_eq (path : String) (h : named = some path) :
    after.files.read after.naming path = .ok lines
  /-- It is at the place where the destination was opened. -/
  lookup_eq (place : Place) (h : found = some place) : after.files.lookup place = some (.file lines)
  /-- Without a name they go to the standard stream. -/
  stream_eq : after.stream c = before.stream c ++ if found = none then lines else []

/-- Since `before`, the destinations have been opened and `content` has been written to them. -/
structure Filled (before host : Machine) (outlets : Outlets) (content : Contents) : Prop where
  /-- The setting is the same. -/
  setting : before.SameSetting host
  /-- Paths lead where they led. -/
  directories : SameDirectories before.files host.files
  /-- Two destinations are two files. -/
  apart {c c' : Channel} {n n' : Nat} {place place' : Place} (h : outlets c = some (n, place))
    (h' : outlets c' = some (n', place')) (hne : c ≠ c') : n ≠ n' ∧ place ≠ place'
  /-- The next bytes for a file go behind those written before. -/
  opened {c : Channel} {n : Nat} {place : Place} (h : outlets c = some (n, place)) :
    host.opened[n]? = some ⟨place, (content c).length⟩
  /-- A file holds what has been written to it. -/
  file {c : Channel} {n : Nat} {place : Place} (h : outlets c = some (n, place)) :
    host.files.lookup place = some (.file (content c))
  /-- Nothing else has changed. -/
  other {place : Place} (h : ∀ c n, outlets c ≠ some (n, place)) :
    host.files.lookup place = before.files.lookup place
  /-- The rest has been written to the standard streams. -/
  stream_eq (c : Channel) :
    host.stream c = before.stream c ++ if outlets c = none then content c else []

namespace Filled

variable {before host : Machine} {outlets : Outlets} {content : Contents}

/-- At first nothing has been opened or written. -/
theorem start (host : Machine) : Filled host host (fun _ => none) fun _ => [] where
  setting := ⟨rfl, rfl⟩
  directories _ := Iff.rfl
  apart := nofun
  opened := nofun
  file := nofun
  other _ := rfl
  stream_eq _ := (List.append_nil _).symm

/-- What is delivered to a standard stream is written there. -/
theorem writeStream (h : Filled before host outlets content) {c : Channel}
    (hc : outlets c = none) (bytes : List UInt8) :
    ∃ host', Machine.writeStream c bytes host = (none, host') ∧
      Filled before host' outlets (content.add c bytes) := by
  obtain ⟨host', hwrite, hsetting, hfiles, hopened, hstream⟩ := exists_writeStream c bytes host
  have hsame : ∀ {c' x}, outlets c' = some x → content.add c bytes c' = content c' := by
    intro c' x hx
    refine Contents.add_of_ne ?_ content bytes
    rintro rfl
    rw [hc] at hx
    cases hx
  refine ⟨host', hwrite, h.setting.trans hsetting, ?_, h.apart, ?_, ?_, ?_, ?_⟩
  · rw [hfiles]
    exact h.directories
  · intro c' n place hx
    rw [hopened, hsame hx]
    exact h.opened hx
  · intro c' n place hx
    rw [hfiles, hsame hx]
    exact h.file hx
  · intro place hx
    rw [hfiles]
    exact h.other hx
  · intro c'
    rw [hstream, Contents.add, h.stream_eq, List.append_assoc]
    by_cases heq : c = c'
    · rw [← heq, if_pos hc, if_pos hc, Contents.add_self, if_pos rfl]
    · rw [if_neg heq, List.append_nil, Contents.add_of_ne heq]

/-- What is delivered to a file is written behind its content. The other destination keeps its
number, its place and its content, because the two are apart. -/
theorem writeFile (h : Filled before host outlets content) {c : Channel} {n : Nat} {place : Place}
    (hc : outlets c = some (n, place)) (bytes : List UInt8) :
    ∃ host', Machine.writeFile n bytes host = (none, host') ∧
      Filled before host' outlets (content.add c bytes) := by
  have hfile := h.file hc
  have hopened := h.opened hc
  have hlength : n < host.opened.length := (List.getElem?_eq_some_iff.1 hopened).1
  have hsupports : host.files.Supports place := (known_of_lookup hfile).supports
  have hnot : host.files.lookup place ≠ some .directory := by
    rw [hfile]
    nofun
  have hself : ∀ {n' place'}, outlets c = some (n', place') → n' = n ∧ place' = place := by
    intro n' place' hx
    rw [hc] at hx
    cases hx
    exact ⟨rfl, rfl⟩
  have hwrite : Machine.writeFile n bytes host =
      (none, { host with
        files := host.files.insert place (.file (content c ++ bytes))
        opened := host.opened.set n ⟨place, (content c).length + bytes.length⟩ }) := by
    simp only [Machine.writeFile, hopened, overwrite_length hfile]
  refine ⟨_, hwrite, h.setting.trans ⟨rfl, rfl⟩, ?_, h.apart, ?_, ?_, ?_, ?_⟩
  · exact h.directories.trans (sameDirectories_insert hsupports hnot _)
  · intro c' n' place' hx
    dsimp only
    by_cases heq : c = c'
    · subst heq
      obtain ⟨rfl, rfl⟩ := hself hx
      rw [List.getElem?_set_self hlength, Contents.add_self, List.length_append]
    · rw [List.getElem?_set_ne (h.apart hc hx heq).1, Contents.add_of_ne heq]
      exact h.opened hx
  · intro c' n' place' hx
    dsimp only
    rw [lookup_insert hsupports]
    by_cases heq : c = c'
    · subst heq
      obtain ⟨rfl, rfl⟩ := hself hx
      rw [if_pos rfl, Contents.add_self]
    · rw [if_neg (h.apart hc hx heq).2.symm, Contents.add_of_ne heq]
      exact h.file hx
  · intro place' hx
    dsimp only
    rw [lookup_insert_of_ne hsupports]
    · exact h.other hx
    · rintro rfl
      exact hx c n hc
  · intro c'
    refine (h.stream_eq c').trans ?_
    by_cases heq : c = c'
    · rw [← heq, hc]
      rfl
    · rw [Contents.add_of_ne heq]

/-- What is delivered to a destination is written there. -/
theorem deliver (h : Filled before host outlets content) (c : Channel) (bytes : List UInt8) :
    ∃ host', Command.deliver ((outlets c).map Prod.fst) (Machine.writeStream c) bytes host =
        (none, host') ∧
      Filled before host' outlets (content.add c bytes) := by
  cases hc : outlets c with
  | none => exact h.writeStream hc bytes
  | some x => exact h.writeFile hc bytes

/-- The pieces of a dump are delivered in order, each to its destination. -/
theorem deliverAll (h : Filled before host outlets content)
    (pieces : List (Channel × List UInt8)) :
    ∃ host', Command.deliverAll (m := StateM Machine) ((outlets .tokens).map Prod.fst)
        ((outlets .errors).map Prod.fst) pieces none host = (none, host') ∧
      Filled before host' outlets fun c => content c ++ Spool.sentTo c pieces := by
  induction pieces generalizing host content with
  | nil =>
    refine ⟨host, rfl, ?_⟩
    simpa [Spool.sentTo] using h
  | cons piece pieces ih =>
    obtain ⟨c, bytes⟩ := piece
    obtain ⟨middle, hpiece, hfilled⟩ := h.deliver c bytes
    obtain ⟨host', hrest, hall⟩ := ih hfilled
    refine ⟨host', ?_, ?_⟩
    · cases c with
      | tokens =>
        have htoken : Command.deliver (m := StateM Machine) _ Host.writeOutput bytes host = _ :=
          hpiece
        rw [Command.deliverAll, run_bind, htoken]
        exact hrest
      | errors =>
        have herror : Command.deliver (m := StateM Machine) _ Host.writeError bytes host = _ :=
          hpiece
        rw [Command.deliverAll, run_bind, herror]
        exact hrest
    · simpa only [Contents.add, List.append_assoc, Spool.sentTo_cons] using hall

/-- A file that is created is one more destination, and empty. Its number is new, since numbers
count the files that were opened. -/
theorem create (h : Filled before host outlets content) {path : String} {place : Place}
    (htarget : host.files.target host.naming path = .ok place) {c : Channel} (hc : outlets c = none)
    (hempty : content c = [])
    (hnew : ∀ c' n place', outlets c' = some (n, place') → place' ≠ place) :
    Filled before
      { host with
        files := host.files.insert place (.file [])
        opened := host.opened ++ [⟨place, 0⟩] }
      (Function.update outlets c (some (host.opened.length, place))) content := by
  obtain ⟨hsupports, hnot⟩ := supports_of_target htarget
  have hold : ∀ {c' n place'}, outlets c' = some (n, place') →
      n < host.opened.length ∧ place' ≠ place := by
    intro c' n place' hx
    exact ⟨(List.getElem?_eq_some_iff.1 (h.opened hx)).1, hnew c' n place' hx⟩
  have hcases : ∀ {c' n place'},
      Function.update outlets c (some (host.opened.length, place)) c' = some (n, place') →
        c' = c ∧ n = host.opened.length ∧ place' = place ∨
          c' ≠ c ∧ outlets c' = some (n, place') := by
    intro c' n place' hx
    by_cases heq : c' = c
    · rw [heq, Function.update_self] at hx
      cases hx
      exact .inl ⟨heq, rfl, rfl⟩
    · rw [Function.update_of_ne heq] at hx
      exact .inr ⟨heq, hx⟩
  refine ⟨h.setting.trans ⟨rfl, rfl⟩,
    h.directories.trans (sameDirectories_insert hsupports hnot []), ?_, ?_, ?_, ?_, ?_⟩
  · intro c₁ c₂ n₁ n₂ place₁ place₂ h₁ h₂ hne
    rcases hcases h₁ with ⟨rfl, rfl, rfl⟩ | ⟨-, hx₁⟩
    · rcases hcases h₂ with ⟨rfl, -, -⟩ | ⟨-, hx₂⟩
      · exact absurd rfl hne
      · exact ⟨(Nat.ne_of_lt (hold hx₂).1).symm, (hold hx₂).2.symm⟩
    · rcases hcases h₂ with ⟨rfl, rfl, rfl⟩ | ⟨-, hx₂⟩
      · exact ⟨Nat.ne_of_lt (hold hx₁).1, (hold hx₁).2⟩
      · exact h.apart hx₁ hx₂ hne
  · intro c' n place' hx
    rcases hcases hx with ⟨rfl, rfl, rfl⟩ | ⟨hne, hx⟩
    · rw [hempty]
      exact List.getElem?_concat_length
    · exact (List.getElem?_append_left (hold hx).1).trans (h.opened hx)
  · intro c' n place' hx
    rcases hcases hx with ⟨rfl, rfl, rfl⟩ | ⟨hne, hx⟩
    · rw [hempty]
      exact lookup_insert_self ..
    · exact (lookup_insert_of_ne hsupports (hold hx).2 _).trans (h.file hx)
  · intro place' hx
    have hne : place' ≠ place := by
      rintro rfl
      exact hx c _ (Function.update_self ..)
    refine (lookup_insert_of_ne hsupports hne _).trans (h.other fun c' n hx' => ?_)
    refine hx c' n ?_
    rw [Function.update_of_ne, hx']
    rintro rfl
    rw [hc] at hx'
    cases hx'
  · intro c'
    refine (h.stream_eq c').trans ?_
    by_cases heq : c' = c
    · rw [heq, hempty, ite_self, ite_self]
    · rw [Function.update_of_ne heq]

/-- A destination that is opened leads to an empty file of its own, or to its standard stream. -/
theorem openDestination (h : Filled before host outlets content) {c : Channel}
    (hc : outlets c = none) (hempty : content c = []) {named : Option String}
    {found : Option Place} (hd : before.files.destination before.naming named = .ok found)
    (hfresh : ∀ c' n place, outlets c' = some (n, place) → found ≠ some place) :
    ∃ outlet host', Command.openDestination (m := StateM Machine) named host =
        (.ok (outlet.map Prod.fst), host') ∧
      outlet.map Prod.snd = found ∧
      Filled before host' (Function.update outlets c outlet) content := by
  cases named with
  | none =>
    cases hd
    refine ⟨none, host, rfl, rfl, ?_⟩
    rw [← hc, Function.update_eq_self]
    exact h
  | some path =>
    obtain ⟨place, hbefore, rfl⟩ := exists_target_of_destination hd
    have htarget := h.directories.target hbefore
    rw [← h.setting.naming_eq] at htarget
    have hcreate : (Host.createFile path : StateM Machine _) host =
        (.ok host.opened.length, { host with
          files := host.files.insert place (.file [])
          opened := host.opened ++ [⟨place, 0⟩] }) := by
      simp only [Host.createFile, createFile, create_eq htarget]
    have hnew : ∀ c' n place', outlets c' = some (n, place') → place' ≠ place := by
      rintro c' n place' hx rfl
      exact hfresh c' n _ hx rfl
    refine ⟨some (host.opened.length, place), _, ?_, rfl, h.create htarget hc hempty hnew⟩
    rw [Command.openDestination, run_bind, hcreate]
    rfl

/-- A destination has received what has been written to it. -/
theorem received (h : Filled before host outlets content) {c : Channel} {named : Option String}
    (hd : before.files.destination before.naming named = .ok ((outlets c).map Prod.snd)) :
    before.Received host c named ((outlets c).map Prod.snd) (content c) where
  read_eq path hnamed := by
    subst hnamed
    obtain ⟨place, htarget, hplace⟩ := exists_target_of_destination hd
    obtain ⟨⟨n, _⟩, hx, rfl⟩ := Option.map_eq_some_iff.1 hplace
    rw [h.setting.naming_eq]
    exact read_of_target (h.directories.target htarget) (h.file hx)
  lookup_eq place hplace := by
    obtain ⟨⟨n, _⟩, hx, rfl⟩ := Option.map_eq_some_iff.1 hplace
    exact h.file hx
  stream_eq := by
    rw [h.stream_eq]
    simp

end Filled

end Machine

end Recognizer
