import Recognizer.Proofs.CommandLine.Outlets
import Recognizer.Proofs.Files.Loading

/-!
# What a command leaves behind

A command that cannot load its source does nothing. Any other has read all of its source before it
opens a destination, so what it writes comes from the content before, even if a destination is the
source itself, under the same path or another. In the end each destination holds its findings and
nothing else, and no other file has changed.
-/

namespace Recognizer

open FileSystem

namespace Command

open Machine

variable {host : Machine} {file : String} {limits : Limits}

/-- Loading a source changes nothing. -/
theorem run_load (host : Machine) (file : String) (limits : Limits) :
    (load file limits : StateM Machine _) host =
      ((host.files.load file limits host.naming).mapError .load, host) := by
  rw [load, run_bind]
  have hread : (Host.readFile file : StateM Machine _) host =
      (host.files.read host.naming file, host) := rfl
  rw [hread, FileSystem.load]
  dsimp only
  cases Source.ofContent file (host.files.read host.naming file) limits <;> rfl

/-- If the source cannot be loaded, a dump does nothing else. -/
theorem runLex_of_error {e : LoadError} (h : host.files.load file limits host.naming = .error e)
    (tokens errors : Option String) :
    (runLex file tokens errors limits : StateM Machine _) host = (.error (.load e), host) := by
  rw [runLex, run_bind, run_load, h]
  rfl

/-- If the source cannot be loaded, a check does nothing else. -/
theorem runParse_of_error {e : LoadError} (h : host.files.load file limits host.naming = .error e)
    (log : Option String) :
    (runParse file log limits : StateM Machine _) host = (.error (.load e), host) := by
  rw [runParse, run_bind, run_load, h]
  rfl

variable {s : Source}

/-- A dump opens its destinations in order, and then delivers what was made of the source. -/
theorem runLex_eq (h : host.files.load file limits host.naming = .ok s)
    {tokens errors : Option String} {tokensTo errorsTo : Option Nat}
    {first second after : Machine} {spool : Spool}
    (hopenTokens : openDestination (m := StateM Machine) tokens host = (.ok tokensTo, first))
    (hopenErrors : openDestination (m := StateM Machine) errors first = (.ok errorsTo, second))
    (hdump : Dump.write s limits.tokenLength (Spool.writer .tokens) (Spool.writer .errors) {} =
      (none, spool))
    (hdeliver : deliverAll (m := StateM Machine) tokensTo errorsTo spool.sent.toList none second =
      (none, after)) :
    (runLex file tokens errors limits : StateM Machine _) host = (.ok 0, after) := by
  rw [runLex, run_bind, run_load, h]
  dsimp only [Except.mapError]
  rw [run_bind, hopenTokens]
  dsimp only
  rw [run_bind, hopenErrors]
  dsimp only
  rw [hdump, run_bind]
  dsimp only
  rw [hdeliver]
  rfl

/-- A dump opens both of its destinations, the second where no file of the first is, and then
delivers the pieces of the whole dump, which is made before. -/
theorem exists_runLex (h : host.files.load file limits host.naming = .ok s)
    {tokens errors : Option String} {tokensAt errorsAt : Option Place}
    (ht : host.files.destination host.naming tokens = .ok tokensAt)
    (he : host.files.destination host.naming errors = .ok errorsAt)
    (hne : tokensAt = errorsAt → tokensAt = none) :
    ∃ after outlets content,
      (runLex file tokens errors limits : StateM Machine _) host = (.ok 0, after) ∧
      (outlets .tokens).map Prod.snd = tokensAt ∧ (outlets .errors).map Prod.snd = errorsAt ∧
      content .tokens =
        (Lexer.start s.chars limits.tokenLength).drain.1.flatMap Token.lineBytes ∧
      content .errors = (Lexer.start s.chars limits.tokenLength).drain.2.reported.toList.flatMap
        Diagnostic.lineBytes ∧
      Filled host after outlets content := by
  obtain ⟨tokensTo, first, hopenTokens, rfl, hfirst⟩ :=
    (Filled.start host).openDestination (c := .tokens) rfl rfl ht nofun
  have hfresh : ∀ c n place,
      Function.update (fun _ => none) Channel.tokens tokensTo c = some (n, place) →
        errorsAt ≠ some place := by
    rintro c n place hx rfl
    cases c with
    | tokens =>
      rw [Function.update_self] at hx
      rw [hx] at hne
      exact Option.some_ne_none _ (hne rfl)
    | errors => cases hx
  obtain ⟨errorsTo, second, hopenErrors, rfl, hsecond⟩ :=
    hfirst.openDestination (c := .errors) rfl rfl he hfresh
  generalize hdump : Dump.write s limits.tokenLength (Spool.writer .tokens) (Spool.writer .errors)
    {} = dump
  have hwritten := Dump.write_spool s limits.tokenLength
  rw [hdump] at hwritten
  obtain ⟨failure, spool⟩ := dump
  obtain ⟨hnone, htokens, herrors⟩ := hwritten
  obtain rfl : failure = none := hnone
  obtain ⟨after, hdeliver, hfilled⟩ := hsecond.deliverAll spool.sent.toList
  exact ⟨after, _, _, runLex_eq h hopenTokens hopenErrors hdump hdeliver, rfl, rfl, htokens,
    herrors, hfilled⟩

/-- What the log of a check gets, and the standard error stream. -/
def checked (s : Source) (limits : Limits) (shown : SyntaxError → String) : Contents
  | .tokens => (s.check limits).2.flatMap Diagnostic.lineBytes
  | .errors => (s.check limits).1.elim [] fun e => Text.utf8 (shown e ++ "\n")

/-- A check writes its log first, and then shows the syntax error. -/
theorem checked_eq (s : Source) (limits : Limits) (shown : SyntaxError → String) :
    checked s limits shown =
      (Contents.add (fun _ => []) .tokens ((s.check limits).2.flatMap Diagnostic.lineBytes)).add
        .errors ((s.check limits).1.elim [] fun e => Text.utf8 (shown e ++ "\n")) := by
  funext c
  cases c <;> simp [checked, Contents.add]

/-- A check opens its log and delivers it, and only then shows the syntax error. -/
theorem runParse_eq (h : host.files.load file limits host.naming = .ok s) {log : Option String}
    {logTo : Option Nat} {first second : Machine} {output : BoundedOutput}
    (hopen : openDestination (m := StateM Machine) log host = (.ok logTo, first))
    (hcheck : s.checkInto limits BoundedOutput.writer {} = (.ok (s.check limits).1, output))
    (hdeliver : deliver (m := StateM Machine) logTo Host.writeOutput output.written.toList first =
      (none, second))
    (hrendering : second.rendering = host.rendering) :
    (runParse file log limits : StateM Machine _) host =
      (s.check limits).1.elim (.ok 0, second) fun e =>
        (.ok 1, (writeError (Text.utf8 (host.rendering file s.text e ++ "\n")) second).2) := by
  rw [runParse, run_bind, run_load, h]
  dsimp only [Except.mapError]
  rw [run_bind, hopen]
  dsimp only
  rw [hcheck, run_bind]
  dsimp only
  rw [hdeliver]
  dsimp only
  cases (s.check limits).1 with
  | none => rfl
  | some e =>
    have hshown : (Host.render file s.text e : StateM Machine _) second =
        (host.rendering file s.text e, second) := by
      rw [← hrendering]
      rfl
    dsimp only
    rw [run_bind, hshown]
    rfl

/-- A check opens its log, delivers the whole of it, and then shows the syntax error if there is
one. -/
theorem exists_runParse (h : host.files.load file limits host.naming = .ok s)
    {log : Option String} {logAt : Option Place}
    (hl : host.files.destination host.naming log = .ok logAt) :
    ∃ after outlets,
      (runParse file log limits : StateM Machine _) host =
        (.ok (if (s.check limits).1 = none then 0 else 1), after) ∧
      (outlets .tokens).map Prod.snd = logAt ∧ outlets .errors = none ∧
      Filled host after outlets (checked s limits (host.rendering file s.text)) := by
  obtain ⟨logTo, first, hopen, rfl, hfirst⟩ :=
    (Filled.start host).openDestination (c := .tokens) rfl rfl hl nofun
  obtain ⟨hverdict, hlines⟩ :=
    s.checkInto_of_takes BoundedOutput.takes (w := {}) ⟨rfl, rfl⟩ limits
  generalize hcheck : s.checkInto limits BoundedOutput.writer {} = result at hverdict hlines
  obtain ⟨verdict, output⟩ := result
  obtain rfl : verdict = _ := hverdict
  obtain ⟨second, hdeliver, hsecond⟩ := hfirst.deliver .tokens output.written.toList
  have hrun := runParse_eq h hopen hcheck hdeliver hsecond.setting.rendering_eq
  have hline : output.written.toList = (s.check limits).2.flatMap Diagnostic.lineBytes := hlines
  rw [hline] at hsecond
  rw [checked_eq]
  cases hv : (s.check limits).1 with
  | none =>
    rw [hv, Option.elim_none] at hrun
    refine ⟨second, Function.update (fun _ => none) .tokens logTo, hrun, rfl, rfl, ?_⟩
    rw [Option.elim_none, Contents.add_nil]
    exact hsecond
  | some e =>
    obtain ⟨third, hreject, hthird⟩ :=
      hsecond.deliver .errors (Text.utf8 (host.rendering file s.text e ++ "\n"))
    have herror : writeError (Text.utf8 (host.rendering file s.text e ++ "\n")) second = _ :=
      hreject
    rw [hv, Option.elim_some, herror] at hrun
    exact ⟨third, Function.update (fun _ => none) .tokens logTo, hrun, rfl, rfl, hthird⟩

end Command

/-- Commands change the files they are to write, and nothing else. If the source cannot be loaded,
because it cannot be read, is no text or is refused, nothing at all is done, and the exit code is 1.
Otherwise, if the destinations can be opened as files of their own, each file holds the findings in
the content that the source had before, whether it is the source or not, a destination that is not
named gets them on its standard stream, and no other place has changed; the exit code is 0 for a
dump, and for a check it tells the verdict. A syntax error is also shown on the standard error
stream, in the way of the machine. Paths lead to places as the machine has it, from the root or the
working directory and by any links. -/
theorem commands_write_destinations_only (host : Machine) (file : String) (limits : Limits) :
    (∀ s, host.files.load file limits host.naming = .ok s ↔
      ∃ raw, host.files.read host.naming file = .ok (Text.utf8 raw) ∧
        Source.prepare raw limits = .ok s) ∧
    (∀ e, host.files.load file limits host.naming = .error e →
      (CommandError.load e).exitCode = 1 ∧
      (∀ tokens errors, (Command.runLex file tokens errors limits : StateM Machine _) host =
        (.error (.load e), host)) ∧
      ∀ log, (Command.runParse file log limits : StateM Machine _) host =
        (.error (.load e), host)) ∧
    ∀ s, host.files.load file limits host.naming = .ok s →
      (∀ tokens errors tokensAt errorsAt,
        host.files.destination host.naming tokens = .ok tokensAt →
        host.files.destination host.naming errors = .ok errorsAt →
        (tokensAt = errorsAt → tokensAt = none) →
        let drained := (Lexer.start s.chars limits.tokenLength).drain
        ∃ after,
          (Command.runLex file tokens errors limits : StateM Machine _) host = (.ok 0, after) ∧
          host.Received after .tokens tokens tokensAt (drained.1.flatMap Token.lineBytes) ∧
          host.Received after .errors errors errorsAt
            (drained.2.reported.toList.flatMap Diagnostic.lineBytes) ∧
          ∀ place, tokensAt ≠ some place → errorsAt ≠ some place →
            after.files.lookup place = host.files.lookup place) ∧
      ∀ log logAt, host.files.destination host.naming log = .ok logAt →
        ∃ after,
          (Command.runParse file log limits : StateM Machine _) host =
            (.ok (if (s.check limits).1 = none then 0 else 1), after) ∧
          host.Received after .tokens log logAt
            ((s.check limits).2.flatMap Diagnostic.lineBytes) ∧
          after.error = host.error ++
            (s.check limits).1.elim []
              (fun e => Text.utf8 (host.rendering file s.text e ++ "\n")) ∧
          ∀ place, logAt ≠ some place → after.files.lookup place = host.files.lookup place := by
  refine ⟨fun _ => load_eq_ok_iff, fun e he => ⟨rfl, ?_, ?_⟩, fun s hs => ⟨?_, ?_⟩⟩
  · exact Command.runLex_of_error he
  · exact Command.runParse_of_error he
  · intro tokens errors tokensAt errorsAt ht he hne drained
    obtain ⟨after, outlets, content, hrun, rfl, rfl, htokens, herrors, hfilled⟩ :=
      Command.exists_runLex hs ht he hne
    refine ⟨after, hrun, ?_, ?_, fun place hplace hplace' => hfilled.other fun c n hx => ?_⟩
    · rw [← htokens]
      exact hfilled.received ht
    · rw [← herrors]
      exact hfilled.received he
    · cases c with
      | tokens => exact hplace (by rw [hx]; rfl)
      | errors => exact hplace' (by rw [hx]; rfl)
  · intro log logAt hl
    obtain ⟨after, outlets, hrun, rfl, hnone, hfilled⟩ := Command.exists_runParse hs hl
    refine ⟨after, hrun, hfilled.received hl, ?_,
      fun place hplace => hfilled.other fun c n hx => ?_⟩
    · have hstream := hfilled.stream_eq .errors
      rw [if_pos hnone] at hstream
      exact hstream
    · cases c with
      | tokens => exact hplace (by rw [hx]; rfl)
      | errors =>
        rw [hnone] at hx
        cases hx

/-- A machine with one file, which is in the working directory and holds a character that begins no
token. -/
def Machine.strayAt : Machine :=
  { files := ⟨[(["home", "a"], .file [64])]⟩
    naming := { here := ["home"] } }

/-- A dump of a file into itself under another path, with the diagnostics above the working
directory, a check of the file that is logged into itself, and an attempt at a file that does not
exist. -/
theorem commands_write_destinations_only_strayAt :
    let host := Machine.strayAt
    ∃ s e dumped checked, host.files.load "a" {} host.naming = .ok s ∧
      host.files.load "b" {} host.naming = .error e ∧
      host.files.destination host.naming (some "/home/a") = .ok (some ["home", "a"]) ∧
      host.files.destination host.naming (some "../b") = .ok (some ["b"]) ∧
      host.files.destination host.naming (some "a") = .ok (some ["home", "a"]) ∧
      (some ["home", "a"] = some ["b"] → some ["home", "a"] = (none : Option Place)) ∧
      (Command.runLex "a" (some "/home/a") (some "../b") {} : StateM Machine _) host =
        (.ok 0, dumped) ∧
      dumped.files.read dumped.naming "/home/a" =
        .ok (Text.utf8 ("'@' (type: error) (line: 1, column: 1)\n" ++
          "'' (type: end of source) (line: 1, column: 2)\n")) ∧
      dumped.files.read dumped.naming "../b" =
        .ok (Text.utf8 "[error] token not found for char '@' (line: 1, column: 1)\n") ∧
      (Command.runParse "a" (some "a") {} : StateM Machine _) host = (.ok 1, checked) ∧
      checked.files.read checked.naming "a" =
        .ok (Text.utf8 ("[error] token not found for char '@' (line: 1, column: 1)\n" ++
          "[error] syntax error: wrong token '@' at 1:1; " ++
          "data type or 'class' keyword expected\n")) ∧
      (Command.runParse "b" (some "a") {} : StateM Machine _) host =
        (.error (.load e), host) := by
  intro host
  have hload : host.files.load "a" {} host.naming = .ok ⟨['@'], by decide, by decide⟩ :=
    load_eq_ok_iff.2 ⟨"@", rfl, rfl⟩
  have hmissing : host.files.load "b" {} host.naming = .error (.unreadable "b" .notFound) := rfl
  have habsolute : host.files.destination host.naming (some "/home/a") =
      .ok (some ["home", "a"]) := rfl
  have habove : host.files.destination host.naming (some "../b") = .ok (some ["b"]) := rfl
  have hrelative : host.files.destination host.naming (some "a") = .ok (some ["home", "a"]) := rfl
  obtain ⟨-, -, hcommands⟩ := commands_write_destinations_only host "a" {}
  obtain ⟨hdump, hcheck⟩ := hcommands _ hload
  obtain ⟨dumped, hlex, htokens, herrors, -⟩ :=
    hdump (some "/home/a") (some "../b") _ _ habsolute habove (by decide)
  obtain ⟨checked, hparse, hlog, -⟩ := hcheck (some "a") _ hrelative
  obtain ⟨-, hrefused, -⟩ := commands_write_destinations_only host "b" {}
  obtain ⟨-, -, hnothing⟩ := hrefused _ hmissing
  refine ⟨_, _, dumped, checked, hload, hmissing, habsolute, habove, hrelative, by decide, hlex,
    ?_, ?_, ?_, ?_, hnothing (some "a")⟩
  · rw [htokens.read_eq "/home/a" rfl]
    exact congrArg Except.ok (by decide +kernel)
  · rw [herrors.read_eq "../b" rfl]
    exact congrArg Except.ok (by decide +kernel)
  · rw [hparse]
    exact congrArg (fun n => (Except.ok n, checked)) (by decide +kernel)
  · rw [hlog.read_eq "a" rfl]
    exact congrArg Except.ok (by decide +kernel)

end Recognizer
