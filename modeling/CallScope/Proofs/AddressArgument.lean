import CallScope.Proofs.AddressLookup
import CallScope.Proofs.CommandRun
import CallScope.Proofs.Literals

/-!
This module contains what becomes of an address that is asked for. The service and the command line take it for an
integer just if it is a literal of that integer, and refuse every other text.
-/

namespace CallScope

open Numeral Console

variable {text : String} {address : Address}

/--
Both front ends look up `address` if they are asked for `text`. The command line starts the tools, and it prints what
the address belongs to, as JSON or by whatever terminal there is.
-/
structure TakenFor (text : String) (address : Address) : Prop where
  lookup_eq : ∀ survey, Service.lookup survey text = Service.location (survey.locate address)
  started_eq : ∀ (terminal : Terminal) (host : Host) (invocation : Invocation), invocation.request = .lookup text →
    (invocation.run terminal host).started = (host.load invocation.tools invocation.binary).started
  text_eq : ∀ (terminal : Terminal) (host : Host) (invocation : Invocation) survey printed,
    invocation.request = .lookup text → invocation.json = false →
    (host.load invocation.tools invocation.binary).result = .ok survey →
    terminal.print (Answer.location (survey.locate address)).texts = { text := printed } →
      (invocation.run terminal host).exitCode = 0 ∧ (invocation.run terminal host).stdout = printed
  json_eq : ∀ (terminal : Terminal) (host : Host) (invocation : Invocation) survey symbol,
    invocation.request = .lookup text → invocation.json = true →
    (host.load invocation.tools invocation.binary).result = .ok survey →
    survey.table.IsFloor address symbol → (Json.int (address - symbol.address)).fits = true →
      (invocation.run terminal host).exitCode = 0
        ∧ (invocation.run terminal host).stdout
          = (Json.obj [("name", .str symbol.name), ("address", .str symbol.address.text),
              ("offset", .int (address - symbol.address))]).text .oneLine ++ "\n"
  null_eq : ∀ (terminal : Terminal) (host : Host) (invocation : Invocation) survey,
    invocation.request = .lookup text → invocation.json = true →
    (host.load invocation.tools invocation.binary).result = .ok survey →
    (∀ symbol ∈ survey.table.symbols, address < symbol.address) →
      (invocation.run terminal host).exitCode = 0 ∧ (invocation.run terminal host).stdout = "null\n"

/--
Both front ends report that `text` is no address. The command line starts no tool before, and the run breaks off if the
terminal cannot write the report.
-/
structure Refused (text : String) : Prop where
  lookup_eq : ∀ survey, Service.lookup survey text = Service.failure ("Invalid address '" ++ text ++ "'")
  run_eq : ∀ (terminal : Terminal) (host : Host) (invocation : Invocation), invocation.request = .lookup text →
    invocation.run terminal host =
      { exitCode := 1
        stdout := ""
        stderr := (terminal.err ("[red]Error:[/red] " ++ ("invalid address '" ++ text ++ "'"))).getD ""
        breach? :=
          if (terminal.err ("[red]Error:[/red] " ++ ("invalid address '" ++ text ++ "'"))).isSome then none
          else some .marks
        started := [] }
  stderr_eq : ∀ (terminal : Terminal) (plain : String → Prop) (host : Host) (invocation : Invocation),
    invocation.request = .lookup text → terminal.Shows plain → plain ("invalid address '" ++ text ++ "'") →
      (invocation.run terminal host).stderr = "Error: " ++ ("invalid address '" ++ text ++ "'") ++ "\n"
        ∧ (invocation.run terminal host).breach? = none

section

variable {terminal : Terminal} {host : Host} {invocation : Invocation} {survey : Survey}

theorem exitCode_and_stdout_of_print {printed : String} (h : literal? text = some address)
    (hrequest : invocation.request = .lookup text)
    (hload : (host.load invocation.tools invocation.binary).result = .ok survey)
    (hprint : (Answer.location (survey.locate address)).print terminal invocation.json = { text := printed }) :
    (invocation.run terminal host).exitCode = 0 ∧ (invocation.run terminal host).stdout = printed := by
  have hanswers : Answers survey invocation.request (.location (survey.locate address)) := by
    rw [hrequest]
    exact .lookup h
  have hanswer : invocation.answer (host.load invocation.tools invocation.binary)
      = .ok (.location (survey.locate address)) := by
    rw [Invocation.answer_of_load_ok hload, hanswers.answer_eq]
  obtain ⟨before, hrun, _⟩ := Invocation.run_of_answer_ok terminal hanswers.check_eq hanswer
  rw [hrun, Answer.outcome, hprint]
  exact ⟨rfl, rfl⟩

theorem started_of_literal? (h : literal? text = some address) (hrequest : invocation.request = .lookup text) :
    (invocation.run terminal host).started = (host.load invocation.tools invocation.binary).started := by
  have hcheck : invocation.request.check = .ok () := by
    apply check_eq_ok
    rintro other hother
    rw [hrequest] at hother
    cases hother
    simp [h]
  simp only [Invocation.run, hcheck]
  cases invocation.answer (host.load invocation.tools invocation.binary) with
  | error failure => rfl
  | ok answer => rfl

end

theorem takenFor_of_isLiteral (h : IsLiteral text address) : TakenFor text address where
  lookup_eq survey := Service.lookup_of_literal? survey h.literal?_eq
  started_eq _ _ _ hrequest := started_of_literal? h.literal?_eq hrequest
  text_eq terminal host invocation survey printed hrequest hjson hload hprinted := by
    apply exitCode_and_stdout_of_print h.literal?_eq hrequest hload
    rw [hjson]
    exact hprinted
  json_eq terminal host invocation survey symbol hrequest hjson hload hsymbol hfits := by
    apply exitCode_and_stdout_of_print h.literal?_eq hrequest hload
    rw [Survey.locate, SymbolTable.floor?_eq_some_iff.mpr hsymbol, hjson]
    simp [Answer.print, Answer.json, Symbol.offset, hfits]
  null_eq terminal host invocation survey hrequest hjson hload habove := by
    apply exitCode_and_stdout_of_print h.literal?_eq hrequest hload
    rw [Survey.locate, SymbolTable.floor?_eq_none_iff.mpr habove, hjson]
    rfl

theorem run_of_literal?_eq_none {invocation : Invocation} (h : literal? text = none)
    (hrequest : invocation.request = .lookup text) (terminal : Terminal) (host : Host) :
    invocation.run terminal host = (Failure.invalidAddress text).outcome terminal "" [] := by
  simp only [Invocation.run, hrequest, Request.check, readAddress, h]
  rfl

theorem refused_of_not_isLiteral (h : ¬∃ address, IsLiteral text address) : Refused text := by
  rw [← literal?_eq_none_iff] at h
  constructor
  · intro survey
    simp only [Service.lookup, h]
  · intro terminal host invocation hrequest
    have hmarked : (Failure.invalidAddress text).markedMessage
        = "[red]Error:[/red] " ++ ("invalid address '" ++ text ++ "'") := rfl
    rw [run_of_literal?_eq_none h hrequest, ← hmarked, Failure.outcome]
    unfold Failure.report
    cases terminal.err (Failure.invalidAddress text).markedMessage with
    | none => simp
    | some written => simp
  · intro terminal plain host invocation hrequest hterminal hplain
    have hreported := @Failure.outcome_eq host _ _ (.invalidAddress text) hterminal hplain (by simp) []
    rw [run_of_literal?_eq_none h hrequest]
    exact ⟨congrArg Outcome.stderr hreported, congrArg Outcome.breach? hreported⟩

theorem Service.location_ne_failure (place : Location) (message : String) : location place ≠ failure message := by
  intro h
  have haddress := field?_address_location place
  rw [h] at haddress
  cases haddress

theorem TakenFor.not_refused (h : TakenFor text address) : ¬Refused text := by
  intro hrefused
  have hlookup := hrefused.lookup_eq {}
  rw [h.lookup_eq] at hlookup
  exact Service.location_ne_failure _ _ hlookup

/--
The address stands in the answer, so a text is not taken for two integers.
-/
theorem TakenFor.eq {other : Address} (h : TakenFor text address) (hother : TakenFor text other) : address = other := by
  have hlookup := h.lookup_eq {}
  rw [hother.lookup_eq] at hlookup
  have hfield := Service.field?_address_location (Survey.locate {} other)
  rw [hlookup, Service.field?_address_location, Option.some.injEq, Json.str.injEq] at hfield
  have hliteral : literal? (hexText address) = literal? (hexText other) := congrArg literal? hfield
  rw [literal?_hexText, literal?_hexText] at hliteral
  exact Option.some.inj hliteral

theorem addressArgument_iff (text : String) :
    (∀ address, TakenFor text address ↔ IsLiteral text address)
      ∧ (Refused text ↔ ¬∃ address, IsLiteral text address) := by
  constructor
  · intro address
    constructor
    · intro h
      by_cases hliteral : ∃ other, IsLiteral text other
      · obtain ⟨other, hother⟩ := hliteral
        rwa [h.eq (takenFor_of_isLiteral hother)]
      · exact absurd (refused_of_not_isLiteral hliteral) h.not_refused
    · exact takenFor_of_isLiteral
  · constructor
    · rintro h ⟨address, hliteral⟩
      exact (takenFor_of_isLiteral hliteral).not_refused h
    · exact refused_of_not_isLiteral

theorem addressArgument_iff_arabicZero : TakenFor " -٠X_1f\n" (-31) ∧ Refused "0_x1f" := by
  rw [(addressArgument_iff _).1, (addressArgument_iff _).2, ← literal?_eq_some_iff, ← literal?_eq_none_iff]
  constructor
  · decide +kernel
  · decide +kernel

-- The report ends a mark that nothing has begun, so it cannot be written and the run breaks off without it.
theorem run_closingMark :
    (¬∃ address, IsLiteral "[/]" address)
      ∧ run parser Terminal.plain refusingHost ["lookup", "--json", "prog", "[/]"]
        = { exitCode := 1, breach? := some .marks }
      ∧ (run parser Terminal.plain refusingHost ["lookup", "--json", "prog", "[/]"]).stderr
        ≠ "Error: invalid address '[/]'\n" := by
  have hliteral : ¬∃ address, IsLiteral "[/]" address := by
    rw [← literal?_eq_none_iff]
    decide +kernel
  have hnone : Terminal.plain.err ("[red]Error:[/red] " ++ ("invalid address '" ++ "[/]" ++ "'")) = none := by
    decide +kernel
  obtain ⟨invocation, hparse, hrequest⟩ : ∃ invocation,
      parser refusingHost ["lookup", "--json", "prog", "[/]"] = .ok invocation
        ∧ invocation.request = .lookup "[/]" := ⟨_, rfl, rfl⟩
  have hrun : run parser Terminal.plain refusingHost ["lookup", "--json", "prog", "[/]"]
      = { exitCode := 1, breach? := some .marks } := by
    simp only [run, hparse]
    rw [(refused_of_not_isLiteral hliteral).run_eq Terminal.plain refusingHost invocation hrequest, hnone]
    rfl
  refine ⟨hliteral, hrun, ?_⟩
  rw [hrun]
  decide

end CallScope
