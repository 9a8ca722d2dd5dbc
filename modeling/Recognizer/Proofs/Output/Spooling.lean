import Recognizer.Output.Spool
import Recognizer.Proofs.Output.Taking

/-!
# Findings by way of a spool

A spool takes everything for either destination, and keeps the two apart. When the findings have
been delivered, it holds nothing back. So the pieces it has sent on for a destination are all that
was written there, one behind the other, however it has cut them.
-/

namespace Recognizer

open Writer

namespace Spool

/-- What the pieces for one of the destinations come to. -/
def sentTo (c : Channel) (pieces : List (Channel × List UInt8)) : List UInt8 :=
  pieces.flatMap fun piece => if piece.1 = c then piece.2 else []

/-- A piece comes to what it holds for the destination, in front of the others. -/
theorem sentTo_cons (c : Channel) (piece : Channel × List UInt8)
    (pieces : List (Channel × List UInt8)) :
    sentTo c (piece :: pieces) = (if piece.1 = c then piece.2 else []) ++ sentTo c pieces :=
  List.flatMap_cons

/-- Pieces one behind the other come to what each of them does. -/
theorem sentTo_append (c : Channel) (pieces more : List (Channel × List UInt8)) :
    sentTo c (pieces ++ more) = sentTo c pieces ++ sentTo c more :=
  List.flatMap_append

/-- Pieces for one destination all go there. -/
theorem sentTo_map_self (c : Channel) (pieces : List (List UInt8)) :
    sentTo c (pieces.map (c, ·)) = pieces.flatten := by
  simp [sentTo, List.flatMap_map]

/-- Pieces for the other destination do not. -/
theorem sentTo_map_of_ne {c c' : Channel} (h : c' ≠ c) (pieces : List (List UInt8)) :
    sentTo c (pieces.map (c', ·)) = [] := by
  simp [sentTo, List.flatMap_map, h]

/-- The bytes gathered for one of the destinations. -/
def held (s : Spool) : Channel → Array UInt8
  | .tokens => s.tokens
  | .errors => s.errors

/-- All that was written to one of the destinations: what has been sent on, and what is gathered. -/
def received (c : Channel) (s : Spool) : List UInt8 :=
  sentTo c s.sent.toList ++ (s.held c).toList

/-- What is added for a destination stands behind what it received before. -/
theorem received_add_self (s : Spool) (c : Channel) (bytes : List UInt8) :
    received c (s.add c bytes) = received c s ++ bytes := by
  have hgather : ∀ held, sentTo c ((gather held bytes).1.map (c, ·)) ++
      (gather held bytes).2.toList = held.toList ++ bytes := by
    intro held
    rw [sentTo_map_self]
    exact flatten_gather held bytes
  cases c with
  | tokens =>
    simp only [received, add, held, Array.toList_appendList, sentTo_append, List.append_assoc]
    rw [hgather]
  | errors =>
    simp only [received, add, held, Array.toList_appendList, sentTo_append, List.append_assoc]
    rw [hgather]

/-- Nothing is added for the other. -/
theorem received_add_of_ne {c c' : Channel} (h : c' ≠ c) (s : Spool) (bytes : List UInt8) :
    received c (s.add c' bytes) = received c s := by
  cases c' with
  | tokens =>
    cases c with
    | tokens => exact absurd rfl h
    | errors => simp [received, add, held, sentTo_append, sentTo_map_of_ne h]
  | errors =>
    cases c with
    | tokens => simp [received, add, held, sentTo_append, sentTo_map_of_ne h]
    | errors => exact absurd rfl h

/-- Sending on what is gathered changes nothing in what was received. -/
theorem received_pass (s : Spool) (c c' : Channel) : received c (s.pass c') = received c s := by
  cases c' <;> cases c <;> simp [received, pass, held, sentTo]

/-- When both destinations have been passed on, nothing is held back. -/
theorem held_pass_pass (s : Spool) (c : Channel) :
    ((s.pass .tokens).pass .errors).held c = #[] := by
  cases c <;> rfl

/-- A spool takes everything for either destination. -/
theorem takes {c c' : Channel} (h : c ≠ c') :
    (writer c).Takes (fun _ => True) (received c) (received c') where
  write _ bytes := ⟨rfl, trivial, received_add_self _ c bytes, received_add_of_ne h _ bytes⟩
  flush _ := ⟨rfl, trivial, (received_pass _ c c).trans (List.append_nil _).symm,
    received_pass _ c' c⟩

end Spool

namespace Dump

variable {ω : Type}

/-- Findings that have been delivered have been passed on. -/
theorem exists_passed {s : Source} {cap : Nat} {tokens errors : Writer ω} {w : ω}
    (h : (write s cap tokens errors w).1 = none) :
    ∃ state, (write s cap tokens errors w).2 = (errors.flush (tokens.flush state).2).2 := by
  rw [write] at h ⊢
  simp only [misplaced_eq_nil, List.map_nil, DiagnosticLog.reportAll, List.foldl_nil] at h ⊢
  generalize lines tokens errors (.start w) (s.readings cap) = result at h ⊢
  obtain ⟨_ | e, ⟨state, failure, count⟩⟩ := result
  · refine ⟨state, ?_⟩
    dsimp only at h ⊢
    generalize tokens.flush state = passed at h ⊢
    obtain ⟨_ | e, state'⟩ := passed
    · cases failure with
      | none =>
        simp only [DiagnosticLog.finish] at h ⊢
        generalize errors.flush state' = finished at h ⊢
        obtain ⟨_ | e, state''⟩ := finished
        · rfl
        · cases h
      | some e => cases h
    · cases h
  · cases h

/-- A dump by way of a spool succeeds and sends on the lines for all tokens and those for all that
is wrong with them. -/
theorem write_spool (s : Source) (cap : Nat) :
    let drained := (Lexer.start s.chars cap).drain
    let dump := write s cap (Spool.writer .tokens) (Spool.writer .errors) {}
    dump.1 = none ∧
      Spool.sentTo .tokens dump.2.sent.toList = drained.1.flatMap Token.lineBytes ∧
      Spool.sentTo .errors dump.2.sent.toList =
        drained.2.reported.toList.flatMap Diagnostic.lineBytes := by
  intro drained dump
  have htake : (Spool.writer .tokens).Takes (fun _ => True) (Spool.received .tokens)
      (Spool.received .errors) := Spool.takes nofun
  have hlog : (Spool.writer .errors).Takes (fun _ => True) (Spool.received .errors)
      (Spool.received .tokens) := Spool.takes nofun
  obtain ⟨hnone, htokens, herrors⟩ := write_of_takes htake hlog (w := {}) trivial s cap
  obtain ⟨state, hpassed⟩ := exists_passed hnone
  have hsent : ∀ c, Spool.received c dump.2 = Spool.sentTo c dump.2.sent.toList := by
    intro c
    have hheld : dump.2.held c = #[] := by
      rw [hpassed]
      exact Spool.held_pass_pass state c
    rw [Spool.received, hheld, List.append_nil]
  rw [hsent] at htokens herrors
  exact ⟨hnone, htokens, herrors⟩

end Dump

end Recognizer
