import CallScope.Proofs.JsonText
import CallScope.Proofs.Load
import CallScope.Proofs.Sandbox
import CallScope.Service.Dispatch

/-!
This module contains the order in which a call to the service looks for faults. Rules say when a call fails and when it
is answered, with the commands that have been started by then. One of them applies to every call, and the call does
what it says.
-/

namespace CallScope

namespace Service

namespace Tool

theorem ofName?_eq_some_iff {name : String} {tool : Tool} : ofName? name = some tool ↔ tool.name = name := by
  constructor
  · intro h
    simpa using List.find?_some h
  · rintro rfl
    cases tool <;> rfl

theorem ofName?_eq_none_iff {name : String} : ofName? name = none ↔ ∀ tool : Tool, tool.name ≠ name := by
  simp only [Option.eq_none_iff_forall_ne_some, ne_eq, ofName?_eq_some_iff]

end Tool

namespace Arguments

/--
Every argument is a text, except that the root may be null.
-/
def AreTexts (arguments : Arguments) : Prop :=
  ∀ name value, arguments.lookup name = some value → (∃ text, value = .str text) ∨ (name = "root" ∧ value = .null)

variable {arguments : Arguments}

theorem AreTexts.lookup_cases (h : arguments.AreTexts) (name : String) (hname : name ≠ "root") :
    arguments.lookup name = none ∨ ∃ text, arguments.lookup name = some (.str text) := by
  cases hvalue : arguments.lookup name with
  | none => exact .inl rfl
  | some value =>
    rcases h name value hvalue with ⟨text, rfl⟩ | ⟨hroot, _⟩
    · exact .inr ⟨text, rfl⟩
    · exact absurd hroot hname

theorem AreTexts.exists_root (h : arguments.AreTexts) :
    ∃ root?, (arguments.lookup "root").getD .null = .ofOption .str root? := by
  cases hvalue : arguments.lookup "root" with
  | none => exact ⟨none, rfl⟩
  | some value =>
    rcases h "root" value hvalue with ⟨text, rfl⟩ | ⟨_, rfl⟩
    · exact ⟨some text, rfl⟩
    · exact ⟨none, rfl⟩

end Arguments

/--
What a tool answers from a survey if the arguments that it requires are there.
-/
inductive Handles (survey : Survey) (arguments : Arguments) : Tool → Json → Prop where
  | callers {name : String} (hname : arguments.lookup "name" = some (.str name)) :
    Handles survey arguments .callers (callers survey (.str name))
  | callees {name : String} (hname : arguments.lookup "name" = some (.str name)) :
    Handles survey arguments .callees (callees survey (.str name))
  | lookup {text : String} (haddress : arguments.lookup "address" = some (.str text)) :
    Handles survey arguments .lookup (lookup survey text)
  | reach {target : String} {root? : Option String} (htarget : arguments.lookup "target" = some (.str target))
      (hroot : (arguments.lookup "root").getD .null = .ofOption .str root?) :
    Handles survey arguments .reach (reach survey (.str target) (.ofOption .str root?))
  | stats : Handles survey arguments .stats (stats survey)

/--
An argument that a tool requires is not there.
-/
structure Lacks (arguments : Arguments) (tool : Tool) (parameter : Parameter) : Prop where
  mem : parameter ∈ tool.parameters
  isRequired : parameter.isRequired = true
  lookup : arguments.lookup parameter.name = none

/--
The binary of a call is a file that can be surveyed.
-/
structure Surveys (host : Host) (arguments : Arguments) (path : String) (survey : Survey) : Prop where
  binary : arguments.lookup "binary" = some (.str path)
  kind : host.kind (Path.normalize path) = .ok .regular
  result : (host.load (.ofEnvironment host) (Path.normalize path)).result = .ok survey

/--
The commands for a binary, with the tools that the environment names.
-/
def commands (host : Host) (path : String) : List Command :=
  [(Toolchain.ofEnvironment host).symbols.command (Path.normalize path),
    (Toolchain.ofEnvironment host).disassembly.command (Path.normalize path)]

/--
A call fails with a message. The rules stand in the order of the checks: each one asks for what those before it find
wrong.
-/
inductive Fails (host : Host) (arguments : Arguments) : String → String → List Command → Prop where
  | binaryMissing {tool : Tool} (hbinary : arguments.lookup "binary" = none) :
    Fails host arguments tool.name "'binary'" []
  | binaryRefused {tool : Tool} {path : String} {refusal : Refusal}
      (hbinary : arguments.lookup "binary" = some (.str path))
      (hkind : host.kind (Path.normalize path) = .error refusal) (hrefusal : refusal.isAbsence = false) :
    Fails host arguments tool.name (refusal.message (Path.normalize path)) []
  | notRegular {tool : Tool} {path : String} (hbinary : arguments.lookup "binary" = some (.str path))
      (hkind : host.kind (Path.normalize path) ≠ .ok .regular)
      (hrefusal : ∀ refusal, host.kind (Path.normalize path) = .error refusal → refusal.isAbsence = true) :
    Fails host arguments tool.name ("No such binary: " ++ path) []
  | loadFailed {tool : Tool} {path : String} {fault : LoadFault}
      (hbinary : arguments.lookup "binary" = some (.str path)) (hkind : host.kind (Path.normalize path) = .ok .regular)
      (hload : (host.load (.ofEnvironment host) (Path.normalize path)).result = .error fault) :
    Fails host arguments tool.name fault.text (host.load (.ofEnvironment host) (Path.normalize path)).started
  | argumentMissing {tool : Tool} {path : String} {survey : Survey} {parameter : Parameter}
      (hsurvey : Surveys host arguments path survey) (hlacks : Lacks arguments tool parameter) :
    Fails host arguments tool.name ("'" ++ parameter.name ++ "'") (commands host path)
  | overlong {tool : Tool} {path : String} {survey : Survey} {json : Json}
      (hsurvey : Surveys host arguments path survey) (hjson : Handles survey arguments tool json)
      (hfits : json.fits = false) :
    Fails host arguments tool.name Json.overlongMessage (commands host path)

/--
A call is answered, if only to say that there is no such tool.
-/
inductive Answers (host : Host) (arguments : Arguments) : String → Json → List Command → Prop where
  | unknownTool {name : String} (hname : ∀ tool : Tool, tool.name ≠ name) :
    Answers host arguments name (failure ("Unknown tool: " ++ name)) []
  | handled {tool : Tool} {path : String} {survey : Survey} {json : Json}
      (hsurvey : Surveys host arguments path survey) (hjson : Handles survey arguments tool json)
      (hfits : json.fits = true) :
    Answers host arguments tool.name json (commands host path)

section

variable {host : Host} {arguments : Arguments} {survey : Survey} {tool : Tool} {path : String} {json : Json}

theorem answer_of_handles (h : Handles survey arguments tool json) : answer tool survey arguments = .ok json := by
  cases h with
  | callers hname | callees hname =>
    simp only [answer, Arguments.required, hname]
    rfl
  | lookup haddress =>
    simp only [answer, Arguments.text, Arguments.required, haddress]
    rfl
  | stats => rfl
  | @reach target root? htarget hroot =>
    simp only [answer, Arguments.required, htarget, hroot]
    -- Names that are texts or null pass, whether or not there is a root.
    cases chooseRoot survey (.ofOption .str root?) with
    | none => rfl
    | some _ =>
      cases root? with
      | none => rfl
      | some _ => rfl

theorem answer_of_lacks {parameter : Parameter} (hbinary : arguments.lookup "binary" = some (.str path))
    (h : Lacks arguments tool parameter) : answer tool survey arguments = .error (.missing parameter.name) := by
  obtain ⟨hmem, hrequired, hlookup⟩ := h
  have hname : parameter ≠ .binary := by
    rintro rfl
    rw [show Parameter.binary.name = "binary" from rfl, hbinary] at hlookup
    cases hlookup
  cases tool <;> simp only [Tool.parameters, List.mem_cons, List.not_mem_nil, or_false, hname, false_or] at hmem
  case callers | callees =>
    subst hmem
    simp only [Parameter.function] at hlookup
    simp only [answer, Arguments.required, hlookup]
    rfl
  case lookup =>
    subst hmem
    simp only [Parameter.address] at hlookup
    simp only [answer, Arguments.text, Arguments.required, hlookup]
    rfl
  case reach =>
    rcases hmem with rfl | rfl
    · simp only [Parameter.target] at hlookup
      simp only [answer, Arguments.required, hlookup]
      rfl
    · cases hrequired

theorem exists_handles_or_lacks (h : arguments.AreTexts) (survey : Survey) (tool : Tool) :
    (∃ json, Handles survey arguments tool json) ∨ ∃ parameter, Lacks arguments tool parameter := by
  cases tool with
  | callers =>
    rcases h.lookup_cases "name" (by decide) with hmissing | ⟨name, hname⟩
    · exact .inr ⟨.function, by simp [Tool.parameters], rfl, hmissing⟩
    · exact .inl ⟨_, .callers hname⟩
  | callees =>
    rcases h.lookup_cases "name" (by decide) with hmissing | ⟨name, hname⟩
    · exact .inr ⟨.function, by simp [Tool.parameters], rfl, hmissing⟩
    · exact .inl ⟨_, .callees hname⟩
  | lookup =>
    rcases h.lookup_cases "address" (by decide) with hmissing | ⟨text, htext⟩
    · exact .inr ⟨.address, by simp [Tool.parameters], rfl, hmissing⟩
    · exact .inl ⟨_, .lookup htext⟩
  | reach =>
    rcases h.lookup_cases "target" (by decide) with hmissing | ⟨target, htarget⟩
    · exact .inr ⟨.target, by simp [Tool.parameters], rfl, hmissing⟩
    · obtain ⟨root?, hroot⟩ := h.exists_root
      exact .inl ⟨_, .reach htarget hroot⟩
  | stats => exact .inl ⟨_, .stats⟩

theorem call_name (tool : Tool) : call host (.str tool.name) (.obj arguments) = tool.reply host arguments := by
  simp only [call, Json.text?, Option.bind_some, Tool.ofName?_eq_some_iff.mpr rfl]
  rfl

theorem binary_of_lookup (h : arguments.lookup "binary" = some (.str path)) :
    binary host arguments
      = match host.kind (Path.normalize path) with
        | .ok .regular => .ok (Path.normalize path)
        | .ok _ => .error (.noBinary path)
        | .error refusal =>
          .error (if refusal.isAbsence then .noBinary path else .badPath (Path.normalize path) refusal) := by
  simp only [binary, Arguments.text, Arguments.required, h]
  rfl

theorem binary_of_regular (hbinary : arguments.lookup "binary" = some (.str path))
    (hkind : host.kind (Path.normalize path) = .ok .regular) : binary host arguments = .ok (Path.normalize path) := by
  simp only [binary_of_lookup hbinary, hkind]

theorem call_of_binary_error {fault : CallFault} (h : binary host arguments = .error fault) (tool : Tool) :
    call host (.str tool.name) (.obj arguments) = fault.reply [] := by
  simp only [call_name, Tool.reply, h]

theorem Surveys.started_eq (h : Surveys host arguments path survey) :
    (host.load (.ofEnvironment host) (Path.normalize path)).started = commands host path := by
  exact Toolchain.started_of_result_ok h.result

theorem Surveys.call_of_error (h : Surveys host arguments path survey) {fault : CallFault}
    (hfault : writableAnswer tool survey arguments = .error fault) :
    call host (.str tool.name) (.obj arguments) = fault.reply (commands host path) := by
  simp only [call_name, Tool.reply, binary_of_regular h.binary h.kind, h.result, hfault, h.started_eq]

theorem Surveys.call_of_ok (h : Surveys host arguments path survey)
    (hjson : writableAnswer tool survey arguments = .ok json) :
    call host (.str tool.name) (.obj arguments) = answerReply json (commands host path) := by
  simp only [call_name, Tool.reply, binary_of_regular h.binary h.kind, h.result, hjson, h.started_eq]

theorem writableAnswer_of_handles (h : Handles survey arguments tool json) :
    writableAnswer tool survey arguments = if json.fits then .ok json else .error .overlong := by
  simp only [writableAnswer, answer_of_handles h]
  rfl

theorem writableAnswer_of_lacks {parameter : Parameter} (hbinary : arguments.lookup "binary" = some (.str path))
    (h : Lacks arguments tool parameter) :
    writableAnswer tool survey arguments = .error (.missing parameter.name) := by
  simp only [writableAnswer, answer_of_lacks hbinary h]
  rfl

theorem call_of_fails {name message : String} {started : List Command} (h : Fails host arguments name message started) :
    call host (.str name) (.obj arguments) = ⟨(failure message).text .oneLine, started⟩ := by
  cases h with
  | binaryMissing hbinary =>
    have hfault : binary host arguments = .error (.missing "binary") := by
      simp only [binary, Arguments.text, Arguments.required, hbinary]
      rfl
    rw [call_of_binary_error hfault]
    rfl
  | @binaryRefused _ path refusal hbinary hkind hrefusal =>
    have hfault : binary host arguments = .error (.badPath (Path.normalize path) refusal) := by
      simp [binary_of_lookup hbinary, hkind, hrefusal]
    rw [call_of_binary_error hfault]
    rfl
  | @notRegular _ path hbinary hkind hrefusal =>
    have hfault : binary host arguments = .error (.noBinary path) := by
      rw [binary_of_lookup hbinary]
      split
      · next hregular => exact absurd hregular hkind
      · rfl
      · next refusal hrefused => rw [hrefusal refusal hrefused, if_pos rfl]
    rw [call_of_binary_error hfault]
    rfl
  | loadFailed hbinary hkind hload =>
    simp only [call_name, Tool.reply, binary_of_regular hbinary hkind, hload]
    rfl
  | argumentMissing hsurvey hlacks =>
    rw [hsurvey.call_of_error (writableAnswer_of_lacks hsurvey.binary hlacks)]
    rfl
  | overlong hsurvey hjson hfits =>
    have hfault := writableAnswer_of_handles hjson
    rw [hfits] at hfault
    rw [hsurvey.call_of_error hfault]
    rfl

theorem call_of_answers {name : String} {started : List Command} (h : Answers host arguments name json started) :
    call host (.str name) (.obj arguments) = ⟨json.text .indented, started⟩ := by
  cases h with
  | unknownTool hname =>
    simp only [call, Json.text?, Option.bind_some, Tool.ofName?_eq_none_iff.mpr hname]
    rfl
  | handled hsurvey hjson hfits =>
    have hanswer := writableAnswer_of_handles hjson
    rw [hfits] at hanswer
    rw [hsurvey.call_of_ok hanswer]
    rfl

theorem exists_of_surveys (h : arguments.AreTexts) (hsurvey : Surveys host arguments path survey) (tool : Tool) :
    (∃ message started, Fails host arguments tool.name message started)
      ∨ ∃ json started, Answers host arguments tool.name json started := by
  rcases exists_handles_or_lacks h survey tool with ⟨json, hjson⟩ | ⟨parameter, hlacks⟩
  · cases hfits : json.fits with
    | true => exact .inr ⟨_, _, .handled hsurvey hjson hfits⟩
    | false => exact .inl ⟨_, _, .overlong hsurvey hjson hfits⟩
  · exact .inl ⟨_, _, .argumentMissing hsurvey hlacks⟩

theorem exists_fails_or_answers (h : arguments.AreTexts) (host : Host) (name : String) :
    (∃ message started, Fails host arguments name message started)
      ∨ ∃ json started, Answers host arguments name json started := by
  by_cases hname : ∀ tool : Tool, tool.name ≠ name
  · exact .inr ⟨_, _, .unknownTool hname⟩
  · simp only [ne_eq, not_forall, Decidable.not_not] at hname
    obtain ⟨tool, rfl⟩ := hname
    rcases h.lookup_cases "binary" (by decide) with hmissing | ⟨path, hbinary⟩
    · exact .inl ⟨_, _, .binaryMissing hmissing⟩
    · cases hkind : host.kind (Path.normalize path) with
      | error refusal =>
        cases hrefusal : refusal.isAbsence with
        | false => exact .inl ⟨_, _, .binaryRefused hbinary hkind hrefusal⟩
        | true => exact .inl ⟨_, _, .notRegular hbinary (by simp [hkind]) (by simp [hkind, hrefusal])⟩
      | ok kind =>
        cases kind with
        | directory | other => exact .inl ⟨_, _, .notRegular hbinary (by simp [hkind]) (by simp [hkind])⟩
        | regular =>
          cases hload : (host.load (.ofEnvironment host) (Path.normalize path)).result with
          | error fault => exact .inl ⟨_, _, .loadFailed hbinary hkind hload⟩
          | ok survey => exact exists_of_surveys h ⟨hbinary, hkind, hload⟩ tool

theorem chars_failure (message : String) :
    (failure message).chars .oneLine 0
      = '\x7b' :: Json.quote "error" ++ [':', ' '] ++ Json.quote message ++ ['\x7d'] := by
  have hmessage : Json.chars .oneLine 1 (.str message) = Json.quote message := rfl
  have hfields : Json.fieldChars .oneLine 1 [] = [] := rfl
  simp [failure, Json.chars_obj_cons, Json.Layout.lineBreak, hmessage, hfields]

theorem newline_not_mem_failure (message : String) : '\n' ∉ ((failure message).text .oneLine).toList := by
  apply Json.newline_not_mem_text_oneLine

theorem exists_fields_of_handles (h : Handles survey arguments tool json) :
    ∃ field fields, json = .obj (field :: fields) := by
  cases h with
  | callers _ | callees _ | stats => exact ⟨_, _, rfl⟩
  | @lookup text _ =>
    unfold lookup location
    split
    · exact ⟨_, _, rfl⟩
    · split
      · exact ⟨_, _, rfl⟩
      · exact ⟨_, _, rfl⟩
  | reach _ _ =>
    unfold reach
    split
    · exact ⟨_, _, rfl⟩
    · exact ⟨_, _, rfl⟩

theorem newline_mem_of_answers {name : String} {started : List Command} (h : Answers host arguments name json started) :
    '\n' ∈ (json.text .indented).toList := by
  cases h with
  | unknownTool _ => apply Json.newline_mem_text_indented
  | handled _ hjson _ =>
    obtain ⟨field, fields, rfl⟩ := exists_fields_of_handles hjson
    apply Json.newline_mem_text_indented

end

theorem call_eq_iff (host : Host) (name : String) (arguments : Arguments) (h : arguments.AreTexts) (reply : Reply) :
    call host (.str name) (.obj arguments) = reply
      ↔ (∃ message, Fails host arguments name message reply.started
          ∧ reply.text = (failure message).text .oneLine ∧ '\n' ∉ reply.text.toList)
        ∨ ∃ json, Answers host arguments name json reply.started
          ∧ reply.text = json.text .indented ∧ '\n' ∈ reply.text.toList := by
  constructor
  · rintro rfl
    rcases exists_fails_or_answers h host name with ⟨message, started, hfails⟩ | ⟨json, started, hanswers⟩
    · rw [call_of_fails hfails]
      exact .inl ⟨message, hfails, rfl, newline_not_mem_failure message⟩
    · rw [call_of_answers hanswers]
      exact .inr ⟨json, hanswers, rfl, newline_mem_of_answers hanswers⟩
  · rintro (⟨message, hfails, htext, _⟩ | ⟨json, hanswers, htext, _⟩)
    · rw [call_of_fails hfails, ← htext]
    · rw [call_of_answers hanswers, ← htext]

/--
A host where every path is a file and every tool writes nothing.
-/
def silentHost : Host where
  environment? _ := none
  kind _ := .ok .regular
  launch _ := .ran [] 0

theorem call_eq_iff_silentHost :
    Arguments.AreTexts [("binary", .str "prog")]
      ∧ call silentHost (.str "bincall_reach") (.obj [("binary", .str "prog")])
        = ⟨"\x7b\"error\": \"'target'\"\x7d", commands silentHost "prog"⟩ := by
  have htexts : Arguments.AreTexts [("binary", .str "prog")] := by
    intro name value h
    simp only [List.lookup_cons, List.lookup_nil] at h
    split at h
    · cases h
      exact .inl ⟨"prog", rfl⟩
    · cases h
  obtain ⟨survey, hsurvey⟩ : ∃ survey, Surveys silentHost [("binary", .str "prog")] "prog" survey :=
    ⟨_, rfl, rfl, rfl⟩
  refine ⟨htexts, (call_eq_iff silentHost "bincall_reach" _ htexts _).mpr (.inl ⟨"'target'", ?_, ?_, ?_⟩)⟩
  · exact @Fails.argumentMissing _ _ .reach _ _ .target hsurvey ⟨by decide, rfl, rfl⟩
  · decide +kernel
  · decide +kernel

def emptyBox : Sandbox where
  workingDirectory := .directory []
  searchDirectory := .directory []

def longName : String :=
  String.ofList (List.replicate Node.nameLimit 'a')

theorem mem_longName_iff {c : Char} : c ∈ longName.toList ↔ c = 'a' := by
  rw [longName, String.toList_ofList, List.mem_replicate]
  simp [Node.nameLimit]

theorem kind_longName : emptyBox.host.kind (Path.normalize longName) = .error .nameTooLong := by
  apply Sandbox.kind_of_nameLimit_le rfl
  · rw [mem_longName_iff]
    decide
  · rw [mem_longName_iff]
    decide
  · decide +kernel

-- A name that is too long is not the name of a regular file, and the reply says why in the words of the system.
theorem call_longName :
    emptyBox.host.kind (Path.normalize longName) ≠ .ok .regular
      ∧ call emptyBox.host (.str "bincall_stats") (.obj [("binary", .str longName)])
        ≠ ⟨(failure ("No such binary: " ++ longName)).text .oneLine, []⟩ := by
  have hcall : call emptyBox.host (.str "bincall_stats") (.obj [("binary", .str longName)]) = _ :=
    call_of_fails (@Fails.binaryRefused _ _ .stats _ _ rfl kind_longName rfl)
  constructor
  · simp [kind_longName]
  · rw [hcall, ne_eq, Reply.mk.injEq, not_and_or]
    left
    rw [Json.text, Json.text, String.ofList_inj, chars_failure, chars_failure]
    -- The two messages begin with different characters.
    have hbracket : Json.escape '[' = ['['] := by decide
    have hletter : Json.escape 'N' = ['N'] := by decide
    simp [Json.quote, Refusal.message, hbracket, hletter]

end Service

end CallScope
