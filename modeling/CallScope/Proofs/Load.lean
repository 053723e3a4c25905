import CallScope.Proofs.Listings
import CallScope.Proofs.Results

/-!
This module contains the ways in which the survey of a binary can end. Whatever the two tools do, one rule says which
fault comes first, which commands were started by then, and when the survey is the one of the two listings.
-/

namespace CallScope

open SymbolListing (entryAddresses)

namespace Launch

def written (output : List UInt8) : List String :=
  Text.lines (Text.Utf8.decode output)

theorem feed_ran (output : List UInt8) (code : Int) (tool : String) :
    (ran output code).feed tool = ⟨written output, if code = 0 then none else some (.exited tool code)⟩ := by
  rfl

theorem eq_ran_zero_of_feed {launch : Launch} {tool : String} (h : (launch.feed tool).failure? = none) :
    ∃ output, launch = .ran output 0 := by
  cases launch with
  | ran output code =>
    simp only [feed_ran, ite_eq_left_iff, reduceCtorEq, imp_false, Decidable.not_not] at h
    exact ⟨output, by rw [h]⟩
  | _ => cases h

/--
The system refuses the tool, or it starts it and the output can be read.
-/
def IsOrdinary : Launch → Prop
  | .refused _ => True
  | .ran _ _ => True
  | _ => False

end Launch

/--
The result of a load, where a fault comes with its text.
-/
def Loaded.ending (loaded : Loaded) : Except (LoadFault × String) Survey :=
  loaded.result.mapError fun fault => (fault, fault.text)

@[simp]
theorem Dumper.command_tool (dumper : Dumper) (binary : String) : (dumper.command binary).tool = dumper.tool := by
  rfl

namespace Toolchain

variable {tools : Toolchain} {binary : String} {first second : Launch}

/--
How the survey of a binary ends, and which commands have been started then.
-/
inductive Loads (tools : Toolchain) (binary : String) :
    Launch → Launch → Except (LoadFault × String) Survey → List Command → Prop where
  | symbolsRefused {refusal : Refusal} {second : Launch} :
    Loads tools binary (.refused refusal) second
      (.error (.feed (.refused tools.symbols.tool refusal),
        "Cannot run " ++ tools.symbols.tool ++ ": " ++ refusal.message tools.symbols.tool))
      []
  | entryRepeated {output : List UInt8} {code : Int} {second : Launch} {recorded repeated : Address}
      {others : List Address} (hentries : entryAddresses (Launch.written output) = recorded :: repeated :: others) :
    Loads tools binary (.ran output code) second
      (.error (.entry (.duplicate repeated recorded),
        "Duplicate entry point " ++ repeated.text ++ " (already " ++ recorded.text ++ ")"))
      [tools.symbols.command binary]
  | symbolsExited {output : List UInt8} {code : Int} {second : Launch}
      (hentries : (entryAddresses (Launch.written output)).length ≤ 1) (hcode : code ≠ 0) :
    Loads tools binary (.ran output code) second
      (.error (.feed (.exited tools.symbols.tool code),
        tools.symbols.tool ++ " exited with code " ++ Numeral.decimalText code))
      [tools.symbols.command binary]
  | disassemblyRefused {output : List UInt8} {refusal : Refusal}
      (hentries : (entryAddresses (Launch.written output)).length ≤ 1) :
    Loads tools binary (.ran output 0) (.refused refusal)
      (.error (.feed (.refused tools.disassembly.tool refusal),
        "Cannot run " ++ tools.disassembly.tool ++ ": " ++ refusal.message tools.disassembly.tool))
      [tools.symbols.command binary]
  | disassemblyExited {output listing : List UInt8} {code : Int}
      (hentries : (entryAddresses (Launch.written output)).length ≤ 1) (hcode : code ≠ 0) :
    Loads tools binary (.ran output 0) (.ran listing code)
      (.error (.feed (.exited tools.disassembly.tool code),
        tools.disassembly.tool ++ " exited with code " ++ Numeral.decimalText code))
      [tools.symbols.command binary, tools.disassembly.command binary]
  | surveyed {output listing : List UInt8} {survey : Survey}
      (hentries : (entryAddresses (Launch.written output)).length ≤ 1)
      (hsurvey : Survey.ofListings (Launch.written output) (Launch.written listing) = .ok survey) :
    Loads tools binary (.ran output 0) (.ran listing 0) (.ok survey)
      [tools.symbols.command binary, tools.disassembly.command binary]

theorem load_of_symbols_error {fault : LoadFault}
    (h : (Survey.loadSymbols {} (SymbolListing.factFeed (first.feed tools.symbols.tool))).result = .error fault) :
    (tools.load binary first second).ending = .error (fault, fault.text)
      ∧ (tools.load binary first second).started = first.started (tools.symbols.command binary) := by
  unfold load Loaded.ending
  simp only [Dumper.command_tool, h]
  trivial

theorem load_of_ran_zero {output : List UInt8} (h : (entryAddresses (Launch.written output)).length ≤ 1) :
    (tools.load binary (.ran output 0) second).result
        = ((Survey.listed (Launch.written output)).loadInstructions
            (Disassembly.instructionFeed (second.feed tools.disassembly.tool))).result
      ∧ (tools.load binary (.ran output 0) second).started
        = tools.symbols.command binary :: second.started (tools.disassembly.command binary) := by
  unfold load
  simp only [Dumper.command_tool, Launch.feed_ran, if_true, Survey.loadSymbols_factFeed_ok h]
  exact ⟨trivial, rfl⟩

/--
Either the symbols fail and the load with them, or the first tool ends well and the second one decides.
-/
theorem load_cases (tools : Toolchain) (binary : String) (first second : Launch) :
    (∃ fault, (Survey.loadSymbols {} (SymbolListing.factFeed (first.feed tools.symbols.tool))).result = .error fault
        ∧ (tools.load binary first second).result = .error fault)
      ∨ ∃ output, first = .ran output 0 ∧ (entryAddresses (Launch.written output)).length ≤ 1 := by
  cases hsymbols : (Survey.loadSymbols {} (SymbolListing.factFeed (first.feed tools.symbols.tool))).result with
  | error fault =>
    refine .inl ⟨fault, rfl, ?_⟩
    unfold load
    simp only [Dumper.command_tool, hsymbols]
  | ok ready =>
    rw [Survey.loadSymbols_factFeed_result] at hsymbols
    have hfault := eq_none_of_elim_eq_ok hsymbols
    rw [Option.or_eq_none_iff, Option.map_eq_none_iff, Option.map_eq_none_iff] at hfault
    obtain ⟨output, rfl⟩ := Launch.eq_ran_zero_of_feed hfault.2
    exact .inr ⟨output, rfl, SymbolTable.entryFault?_eq_none_iff.mp hfault.1⟩

theorem exists_listings_of_result_ok {survey : Survey} (h : (tools.load binary first second).result = .ok survey) :
    ∃ output listing, first = .ran output 0 ∧ second = .ran listing 0
      ∧ (entryAddresses (Launch.written output)).length ≤ 1
      ∧ Survey.ofListings (Launch.written output) (Launch.written listing) = .ok survey := by
  rcases load_cases tools binary first second with ⟨fault, _, herror⟩ | ⟨output, rfl, hentries⟩
  · rw [h] at herror
    cases herror
  · rw [(load_of_ran_zero hentries).1] at h
    have hlisting := h
    rw [Survey.loadInstructions_result (by simp)] at hlisting
    obtain ⟨listing, rfl⟩ := Launch.eq_ran_zero_of_feed (eq_none_of_elim_eq_ok hlisting)
    rw [Launch.feed_ran, if_pos rfl, Disassembly.instructionFeed, ← Survey.ofListings_eq hentries] at h
    exact ⟨output, listing, rfl, rfl, hentries, h⟩

theorem started_of_result_ok {survey : Survey} (h : (tools.load binary first second).result = .ok survey) :
    (tools.load binary first second).started = [tools.symbols.command binary, tools.disassembly.command binary] := by
  obtain ⟨output, listing, rfl, rfl, hentries, _⟩ := exists_listings_of_result_ok h
  exact (load_of_ran_zero hentries).2

theorem Loads.load_eq {ending : Except (LoadFault × String) Survey} {started : List Command}
    (h : tools.Loads binary first second ending started) :
    (tools.load binary first second).ending = ending ∧ (tools.load binary first second).started = started := by
  cases h with
  | symbolsRefused =>
    apply load_of_symbols_error
    rfl
  | entryRepeated hentries =>
    -- A repeated entry point comes up among the lines, the exit code only after them.
    apply load_of_symbols_error
    rw [Survey.loadSymbols_factFeed_result, Launch.feed_ran, hentries]
    rfl
  | symbolsExited hentries hcode =>
    apply load_of_symbols_error
    rw [Survey.loadSymbols_factFeed_result, Launch.feed_ran, SymbolTable.entryFault?_eq_none_iff.mpr hentries,
      if_neg hcode]
    rfl
  | disassemblyRefused hentries =>
    obtain ⟨hresult, hstarted⟩ := load_of_ran_zero hentries
    rw [Loaded.ending, hresult, hstarted, Survey.loadInstructions_result (by simp)]
    exact ⟨rfl, rfl⟩
  | disassemblyExited hentries hcode =>
    obtain ⟨hresult, hstarted⟩ := load_of_ran_zero hentries
    rw [Loaded.ending, hresult, hstarted, Survey.loadInstructions_result (by simp), Launch.feed_ran, if_neg hcode]
    exact ⟨rfl, rfl⟩
  | surveyed hentries hsurvey =>
    obtain ⟨hresult, hstarted⟩ := load_of_ran_zero hentries
    rw [Survey.ofListings_eq hentries] at hsurvey
    rw [Loaded.ending, hresult, hstarted, Launch.feed_ran, if_pos rfl, Disassembly.instructionFeed, hsurvey]
    exact ⟨rfl, rfl⟩

theorem exists_loads_ran {output : List UInt8} (hentries : (entryAddresses (Launch.written output)).length ≤ 1)
    (code : Int) (hsecond : second.IsOrdinary) :
    ∃ ending started, tools.Loads binary (.ran output code) second ending started := by
  by_cases hcode : code = 0
  · subst hcode
    match second with
    | .refused _ => exact ⟨_, _, .disassemblyRefused hentries⟩
    | .ran listing status =>
      by_cases hstatus : status = 0
      · subst hstatus
        obtain ⟨survey, hsurvey, _⟩ := Survey.ofListings_eq_ok hentries (Launch.written listing)
        exact ⟨_, _, .surveyed hentries hsurvey⟩
      · exact ⟨_, _, .disassemblyExited hentries hstatus⟩
  · exact ⟨_, _, .symbolsExited hentries hcode⟩

theorem exists_loads (tools : Toolchain) (binary : String) (hfirst : first.IsOrdinary) (hsecond : second.IsOrdinary) :
    ∃ ending started, tools.Loads binary first second ending started := by
  match first with
  | .refused _ => exact ⟨_, _, .symbolsRefused⟩
  | .ran output code =>
    match hentries : entryAddresses (Launch.written output) with
    | [] => apply exists_loads_ran (by simp [hentries]) code hsecond
    | [_] => apply exists_loads_ran (by simp [hentries]) code hsecond
    | _ :: _ :: _ => exact ⟨_, _, .entryRepeated hentries⟩

theorem Loads.started_prefix {ending : Except (LoadFault × String) Survey} {started : List Command}
    (h : tools.Loads binary first second ending started) :
    started <+: [tools.symbols.command binary, tools.disassembly.command binary] := by
  cases h with
  | symbolsRefused => apply List.nil_prefix
  | disassemblyExited | surveyed => apply List.prefix_refl
  | _ => simp

theorem loads_iff_load (tools : Toolchain) (binary : String) (first second : Launch) (hfirst : first.IsOrdinary)
    (hsecond : second.IsOrdinary) :
    (∀ ending started, tools.Loads binary first second ending started
        ↔ (tools.load binary first second).ending = ending ∧ (tools.load binary first second).started = started)
      ∧ (tools.load binary first second).started <+: [tools.symbols.command binary, tools.disassembly.command binary]
      ∧ ∀ host : Host, host.launch (tools.symbols.command binary) = first →
          host.launch (tools.disassembly.command binary) = second →
          host.load tools binary = tools.load binary first second := by
  -- There is a rule for the two launches, and the load does what it says. So no other rule applies.
  obtain ⟨ending, started, hloads⟩ := exists_loads tools binary hfirst hsecond
  obtain ⟨rfl, rfl⟩ := hloads.load_eq
  refine ⟨?_, hloads.started_prefix, ?_⟩
  · intro ending started
    constructor
    · exact Loads.load_eq
    · rintro ⟨rfl, rfl⟩
      exact hloads
  · rintro host rfl rfl
    rfl

def repeatedEntry : List UInt8 :=
  "  Entry point address: 0x1000\n  Entry point address: 0x2000\n".toUTF8.toList

theorem loads_iff_load_repeatedEntry :
    (Launch.ran repeatedEntry 1).IsOrdinary ∧ (Launch.refused .notFound).IsOrdinary
      ∧ (standard.load "prog" (.ran repeatedEntry 1) (.refused .notFound)).ending
        = .error (.entry (.duplicate 0x2000 0x1000), "Duplicate entry point 0x2000 (already 0x1000)")
      ∧ (standard.load "prog" (.ran repeatedEntry 1) (.refused .notFound)).started
        = [⟨"readelf", ["--headers", "--symbols", "--wide", "prog"]⟩] := by
  have hentries : entryAddresses (Launch.written repeatedEntry) = [0x1000, 0x2000] := by decide +kernel
  refine ⟨trivial, trivial, ?_⟩
  obtain ⟨hloads, _⟩ := loads_iff_load standard "prog" (.ran repeatedEntry 1) (.refused .notFound) trivial trivial
  exact (hloads _ _).mp (.entryRepeated hentries)

end Toolchain

end CallScope
