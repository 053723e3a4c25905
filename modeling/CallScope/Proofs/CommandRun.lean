import CallScope.Proofs.CommandAnswer
import CallScope.Proofs.CommandWords
import CallScope.Proofs.Terminal

/-!
This module contains how a command ends, whatever parser and terminal it is given. Rules say when it fails, with which
message and after which commands. A failure leaves nothing on standard output, and an answer leaves nothing on standard
error, except for what the tools write there themselves.
-/

namespace CallScope

open Text (HasNoNull)

namespace Console

/--
A command fails with a message, after some commands have been started. The rules stand in the order of the checks, and
each one asks that those before it find nothing wrong.
-/
inductive Fails (host : Host) (invocation : Invocation) : String → List Command → Prop where
  | invalidAddress {text : String} (hrequest : invocation.request = .lookup text)
      (htext : Numeral.literal? text = none) :
    Fails host invocation ("invalid address '" ++ text ++ "'") []
  | loadFailed {fault : LoadFault}
      (hrequest : ∀ text, invocation.request = .lookup text → Numeral.literal? text ≠ none)
      (hload : (host.load invocation.tools invocation.binary).result = .error fault) :
    Fails host invocation fault.text (host.load invocation.tools invocation.binary).started
  | noRoot {target : String} {root? : Option String} {survey : Survey}
      (hrequest : invocation.request = .reach target root?) (hroot : IsRootless root?)
      (hload : (host.load invocation.tools invocation.binary).result = .ok survey)
      (hentry : survey.table.entryPoint? = none ∨ ∃ entry, survey.table.entryPoint? = some entry
        ∧ ∀ symbol ∈ survey.table.symbols, entry < symbol.address) :
    Fails host invocation "no --root given and no entry point function found"
      [invocation.tools.symbols.command invocation.binary, invocation.tools.disassembly.command invocation.binary]

section

variable {host : Host} {invocation : Invocation} {survey : Survey} {answer : Answer}

theorem exists_answers_of_load (hload : (host.load invocation.tools invocation.binary).result = .ok survey)
    (haddress : ∀ text, invocation.request = .lookup text → Numeral.literal? text ≠ none) :
    (∃ message started, Fails host invocation message started)
      ∨ ∃ answer, Answers survey invocation.request answer := by
  cases hrequest : invocation.request with
  | stats => exact .inr ⟨_, .stats⟩
  | callers name => exact .inr ⟨_, .callers⟩
  | callees name => exact .inr ⟨_, .callees⟩
  | lookup text =>
    obtain ⟨address, htext⟩ := Option.ne_none_iff_exists'.mp (haddress text hrequest)
    exact .inr ⟨_, .lookup htext⟩
  | reach target root? =>
    rcases isRootless_or root? with hroot | ⟨root, rfl, hroot⟩
    · cases hentry : survey.table.entryPoint? with
      | none => exact .inl ⟨_, _, .noRoot hrequest hroot hload (.inl hentry)⟩
      | some entry =>
        cases hfloor : survey.table.floor? entry with
        | none =>
          have habove := SymbolTable.floor?_eq_none_iff.mp hfloor
          exact .inl ⟨_, _, .noRoot hrequest hroot hload (.inr ⟨entry, hentry, habove⟩)⟩
        | some symbol =>
          have hname : survey.table.BelongsTo entry symbol.name :=
            ⟨symbol, SymbolTable.floor?_eq_some_iff.mp hfloor, rfl⟩
          exact .inr ⟨_, .reach (.entry hroot hentry hname)⟩
    · exact .inr ⟨_, .reach (.given hroot)⟩

theorem exists_fails_or_answers (host : Host) (invocation : Invocation) :
    (∃ message started, Fails host invocation message started)
      ∨ ∃ survey answer, (host.load invocation.tools invocation.binary).result = .ok survey
        ∧ Answers survey invocation.request answer := by
  by_cases haddress : ∀ text, invocation.request = .lookup text → Numeral.literal? text ≠ none
  · cases hload : (host.load invocation.tools invocation.binary).result with
    | error fault => exact .inl ⟨_, _, .loadFailed haddress hload⟩
    | ok survey =>
      rcases exists_answers_of_load hload haddress with hfails | ⟨answer, hanswers⟩
      · exact .inl hfails
      · exact .inr ⟨survey, answer, rfl, hanswers⟩
  · simp only [not_forall, ne_eq, Decidable.not_not] at haddress
    obtain ⟨text, hrequest, htext⟩ := haddress
    exact .inl ⟨_, _, .invalidAddress hrequest htext⟩

end

section

variable {host : Host} {terminal : Terminal} {plain : String → Prop} {invocation : Invocation} {failure : Failure}
variable {survey : Survey} {answer : Answer}

/--
The outcome of a failure with some message. The tools may have written to standard error before.
-/
def reported (host : Host) (message : String) (started : List Command) : Outcome where
  exitCode := 1
  stderr := host.passed started ++ "Error: " ++ message ++ "\n"
  started := started

theorem Failure.report_eq (hterminal : terminal.Shows plain) (hplain : plain failure.message)
    (h : failure ≠ .load (.feed .malformed)) :
    failure.report terminal = { text := "Error: " ++ failure.message ++ "\n" } := by
  have herr : terminal.err failure.markedMessage = some ("Error: " ++ failure.message ++ "\n") :=
    hterminal.err_eq _ hplain
  unfold report
  split
  · exact absurd rfl h
  · simp only [herr]

theorem Failure.outcome_eq (hterminal : terminal.Shows plain) (hplain : plain failure.message)
    (h : failure ≠ .load (.feed .malformed)) (started : List Command) :
    failure.outcome terminal (host.passed started) started = reported host failure.message started := by
  rw [outcome, report_eq hterminal hplain h, reported, String.append_assoc, String.append_assoc, String.append_assoc]

namespace Invocation

theorem answer_of_load_error {fault : LoadFault} {loaded : Loaded} (h : loaded.result = .error fault) :
    invocation.answer loaded = .error (.load fault) := by
  rw [answer, h]
  rfl

theorem run_of_answer_error (terminal : Terminal) (hcheck : invocation.request.check = .ok ())
    (h : invocation.answer (host.load invocation.tools invocation.binary) = .error failure) :
    ∃ before, invocation.run terminal host
        = failure.outcome terminal before (host.load invocation.tools invocation.binary).started
      ∧ (invocation.verbose = false → before = host.passed (host.load invocation.tools invocation.binary).started) := by
  simp only [run, hcheck, h]
  exact ⟨_, rfl, fun hquiet => by simp [hquiet]⟩

theorem run_of_answer_ok (terminal : Terminal) (hcheck : invocation.request.check = .ok ())
    (h : invocation.answer (host.load invocation.tools invocation.binary) = .ok answer) :
    ∃ before, invocation.run terminal host
        = answer.outcome terminal invocation.json before (host.load invocation.tools invocation.binary).started
      ∧ (invocation.verbose = false → before = host.passed (host.load invocation.tools invocation.binary).started) := by
  simp only [run, hcheck, h]
  exact ⟨_, rfl, fun hquiet => by simp [hquiet]⟩

end Invocation

/--
A command that fails ends with the outcome of a failure, whatever the terminal makes of it.
-/
theorem exists_outcome_of_fails {message : String} {started : List Command} (terminal : Terminal)
    (h : Fails host invocation message started) :
    ∃ failure : Failure, failure.message = message
      ∧ (failure = .load (.feed .malformed) →
        (host.load invocation.tools invocation.binary).result = .error (.feed .malformed))
      ∧ ∃ before, invocation.run terminal host = failure.outcome terminal before started
        ∧ (invocation.verbose = false → before = host.passed started) := by
  cases h with
  | @invalidAddress text hrequest htext =>
    refine ⟨.invalidAddress text, rfl, by simp, "", ?_, fun _ => rfl⟩
    simp only [Invocation.run, hrequest, Request.check, readAddress, htext]
    rfl
  | @loadFailed fault haddress hload =>
    refine ⟨.load fault, rfl, ?_, ?_⟩
    · rintro ⟨rfl⟩
      exact hload
    · exact Invocation.run_of_answer_error terminal (check_eq_ok haddress) (Invocation.answer_of_load_error hload)
  | @noRoot target root? survey hrequest hroot hload hentry =>
    have hcheck : invocation.request.check = .ok () := by
      rw [hrequest]
      rfl
    have hanswer : invocation.answer (host.load invocation.tools invocation.binary) = .error .noRoot := by
      rw [Invocation.answer_of_load_ok hload, hrequest]
      simp only [Request.answer, chooseRoot_of_isRootless hroot, SymbolTable.entryFunction?_eq_none_iff.mpr hentry]
    have hrun := Invocation.run_of_answer_error terminal hcheck hanswer
    rw [Host.load, Toolchain.started_of_result_ok hload] at hrun
    exact ⟨.noRoot, rfl, by simp, hrun⟩

theorem Terminal.breach?_print {texts : List String} (h : ∀ text ∈ texts, (terminal.out text).isSome = true) :
    (terminal.print texts).breach? = none := by
  induction texts with
  | nil => rfl
  | cons text texts ih =>
    obtain ⟨htext, htexts⟩ := List.forall_mem_cons.mp h
    obtain ⟨written, hwritten⟩ := Option.isSome_iff_exists.mp htext
    simp only [print, hwritten]
    exact ih htexts

/--
The outcome of a command with an answer.
-/
def written (host : Host) (terminal : Terminal) (invocation : Invocation) (answer : Answer) : Outcome where
  exitCode := 0
  stdout := if invocation.json then answer.json.text .oneLine ++ "\n" else (terminal.print answer.texts).text
  stderr := host.passed
    [invocation.tools.symbols.command invocation.binary, invocation.tools.disassembly.command invocation.binary]
  started :=
    [invocation.tools.symbols.command invocation.binary, invocation.tools.disassembly.command invocation.binary]

theorem Answer.print_eq {json : Bool} (hterminal : terminal.Shows plain)
    (hnames : json = false → ∀ name ∈ answer.names, plain name) (hfits : json = true → answer.json.fits = true) :
    answer.print terminal json
      = { text := if json then answer.json.text .oneLine ++ "\n" else (terminal.print answer.texts).text } := by
  cases json with
  | false =>
    have hbreach := Terminal.breach?_print (hterminal.out_isSome answer (hnames rfl))
    rw [Answer.print, Bool.not_false, if_pos rfl]
    cases hprint : terminal.print answer.texts with
    | mk text breach? =>
      rw [hprint] at hbreach
      cases hbreach
      rfl
  | true => simp [Answer.print, hfits rfl]

end

section

variable {host : Host} {terminal : Terminal} {line : List String} {invocation : Invocation}

theorem Answer.exitCode_outcome_lt_two (answer : Answer) (terminal : Terminal) (json : Bool) (before : String)
    (started : List Command) : (answer.outcome terminal json before started).exitCode < 2 := by
  unfold outcome
  split
  · exact Nat.one_lt_two
  · exact Nat.zero_lt_two

theorem Invocation.exitCode_run_lt_two (invocation : Invocation) (terminal : Terminal) (host : Host) :
    (invocation.run terminal host).exitCode < 2 := by
  unfold run
  cases invocation.request.check with
  | error failure => exact Nat.one_lt_two
  | ok _ =>
    cases hanswer : invocation.answer (host.load invocation.tools invocation.binary) with
    | error failure =>
      simp only [hanswer]
      exact Nat.one_lt_two
    | ok answer =>
      simp only [hanswer]
      apply Answer.exitCode_outcome_lt_two

/--
A command line passes the checks of the parser that runs if and only if its exit code is not two.
-/
theorem exitCode_run_ne_two_iff :
    (run parser terminal host line).exitCode ≠ 2 ↔ ∃ invocation, parser host line = .ok invocation := by
  unfold run
  cases hparse : parser host line with
  | ok invocation => simp [Nat.ne_of_lt (invocation.exitCode_run_lt_two terminal host)]
  | error outcome =>
    unfold parser at hparse
    cases hfault : parse host line with
    | ok invocation =>
      rw [hfault] at hparse
      cases hparse
    | error fault =>
      rw [hfault] at hparse
      cases hparse
      simp [UsageFault.outcome]

end

/--
A host where every path is a file and no tool can be started.
-/
def refusingHost : Host where
  environment? _ := none
  kind _ := .ok .regular
  launch _ := .refused .notFound

end Console

end CallScope
