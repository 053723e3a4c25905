import CallScope.Proofs.CommandRun
import CallScope.Proofs.Dispatch
import CallScope.Proofs.JsonReading

/-!
This module contains what a reader of the program's JSON gets to know. The text of a value without binary numbers is
read as that value and as no other. What the service replies is the text of its answer or of its failure, and what a
command writes that is asked for JSON is the text of its answer. As long as no binary number is among the arguments, a
reader gets back exactly that value.
-/

namespace CallScope

namespace Json

/--
The text of a value holds the whole value, in visible ASCII with line breaks between items only.
-/
structure Carries (layout : Layout) (payload : Json) : Prop where
  permits : ∀ c ∈ (payload.text layout).toList, layout.Permits c
  breaksBetween : BreaksBetween (payload.text layout).toList
  denotes_iff : ∀ value, Denotes (payload.text layout) value ↔ value = payload
  eq_of_text_eq : ∀ other, IsPlain other → other.text layout = payload.text layout → other = payload

/--
A value that the program may write. Its numbers are short enough for a reader that bounds them as the writer does.
-/
structure IsPayload (payload : Json) : Prop where
  isPlain : payload.IsPlain
  fits : payload.fits = true

theorem carries_of_isPlain {payload : Json} (layout : Layout) (h : payload.IsPlain) : Carries layout payload where
  permits c hc := by
    rw [text, String.toList_ofList] at hc
    exact permits_of_mem_chars layout 0 c payload hc
  breaksBetween := by
    rw [text, String.toList_ofList]
    exact breaksBetween_chars layout 0 payload
  denotes_iff value := by
    constructor
    · intro hvalue
      exact hvalue.unique (denotes_text layout h)
    · rintro rfl
      exact denotes_text layout h
  eq_of_text_eq other hother htext := by
    have hdenotes := denotes_text layout hother
    rw [htext] at hdenotes
    exact hdenotes.unique (denotes_text layout h)

attribute [simp] IsPlain.null IsPlain.int IsPlain.str

@[simp]
theorem isPlain_obj_iff {fields : List (String × Json)} :
    IsPlain (.obj fields) ↔ (fields.map Prod.fst).Nodup ∧ ∀ field ∈ fields, IsPlain field.2 := by
  constructor
  · intro h
    cases h with
    | obj hnames hfields => exact ⟨hnames, hfields⟩
  · rintro ⟨hnames, hfields⟩
    exact .obj hnames hfields

@[simp]
theorem isPlain_strs (texts : List String) : (strs texts).IsPlain := by
  apply IsPlain.arr
  simp

@[simp]
theorem isPlain_ofOption {α : Type} {f : α → Json} (h : ∀ a, (f a).IsPlain) (a? : Option α) :
    (ofOption f a?).IsPlain := by
  cases a? with
  | none => exact .null
  | some a => exact h a

theorem isPlain_of_lookup {fields : List (String × Json)} {name : String} {value : Json} (h : IsPlain (.obj fields))
    (hvalue : fields.lookup name = some value) : value.IsPlain := by
  obtain ⟨before, after, rfl, _⟩ := List.lookup_eq_some_iff.mp hvalue
  exact (isPlain_obj_iff.mp h).2 (name, value) (by simp)

end Json

open Json (Carries Denotes IsPayload IsPlain)

namespace Service

variable {survey : Survey} {arguments : Arguments} {tool : Tool} {answer : Json} {name : String} {value : Json}

theorem isPayload_failure (message : String) : IsPayload (failure message) := by
  constructor <;> simp [failure]

theorem isPlain_location (place : Location) : (location place).IsPlain := by
  unfold location
  split <;> simp

theorem isPlain_lookup (survey : Survey) (text : String) : (lookup survey text).IsPlain := by
  unfold lookup
  split
  · exact (isPayload_failure _).isPlain
  · exact isPlain_location _

theorem isPlain_of_chooseRoot {root found : Json} (h : root.IsPlain) (hfound : chooseRoot survey root = some found) :
    found.IsPlain := by
  cases root with
  | null =>
    rw [chooseRoot_null] at hfound
    obtain ⟨name, _, rfl⟩ := Option.map_eq_some_iff.mp hfound
    exact .str
  | _ =>
    cases hfound
    exact h

theorem isPlain_reach {target root : Json} (survey : Survey) (htarget : target.IsPlain) (hroot : root.IsPlain) :
    (reach survey target root).IsPlain := by
  unfold reach
  split
  · exact (isPayload_failure _).isPlain
  · next found hfound => simp [isPlain_of_chooseRoot hroot hfound, htarget, Json.ofAddress?]

theorem isPlain_of_required (h : IsPlain (.obj arguments)) (hvalue : arguments.required name = .ok value) :
    value.IsPlain := by
  unfold Arguments.required at hvalue
  split at hvalue
  · next found hfound =>
    cases hvalue
    exact Json.isPlain_of_lookup h hfound
  · cases hvalue

theorem isPlain_root (h : IsPlain (.obj arguments)) : ((arguments.lookup "root").getD .null).IsPlain := by
  cases hroot : arguments.lookup "root" with
  | none => exact .null
  | some root => exact Json.isPlain_of_lookup h hroot

theorem isPlain_of_answer (h : IsPlain (.obj arguments)) (hanswer : Service.answer tool survey arguments = .ok answer) :
    answer.IsPlain := by
  cases tool with
  | callers | callees =>
    obtain ⟨name, hname, hanswer⟩ := exists_of_bind_eq_ok hanswer
    obtain ⟨_, _, hanswer⟩ := exists_of_bind_eq_ok hanswer
    cases hanswer
    simp [callers, callees, isPlain_of_required h hname]
  | lookup =>
    obtain ⟨text, _, hanswer⟩ := exists_of_bind_eq_ok hanswer
    cases hanswer
    exact isPlain_lookup survey text
  | reach =>
    obtain ⟨target, htarget, hanswer⟩ := exists_of_bind_eq_ok hanswer
    have hplain := isPlain_reach survey (isPlain_of_required h htarget) (isPlain_root h)
    dsimp only at hanswer
    -- The names are checked only if there is a root, and are repeated either way.
    split at hanswer
    · obtain ⟨_, _, hanswer⟩ := exists_of_bind_eq_ok hanswer
      obtain ⟨_, _, hanswer⟩ := exists_of_bind_eq_ok hanswer
      cases hanswer
      exact hplain
    · cases hanswer
      exact hplain
  | stats =>
    cases hanswer
    simp [stats, Json.ofAddress?]

theorem isPayload_of_writableAnswer (h : IsPlain (.obj arguments))
    (hanswer : writableAnswer tool survey arguments = .ok answer) : IsPayload answer := by
  obtain ⟨found, hfound, hanswer⟩ := exists_of_bind_eq_ok hanswer
  split at hanswer
  · next hfits =>
    cases hanswer
    exact ⟨isPlain_of_answer h hfound, hfits⟩
  · cases hanswer

/--
What the service sends in reply to a call, and in which layout. An answer of a tool is spread over lines, and so is the
report that there is no such tool. The report of a failure is on one line.
-/
inductive Sends (host : Host) : Json → Json → Json.Layout → Json → Prop where
  | unknownTool {name arguments : Json} (hname : ∀ tool : Tool, name ≠ .str tool.name) :
    Sends host name arguments .indented (failure ("Unknown tool: " ++ name.spelling))
  | notObject {tool : Tool} {arguments : Json} {fault : CallFault}
      (harguments : Arguments.ofJson arguments = .error fault) :
    Sends host (.str tool.name) arguments .oneLine (failure fault.message)
  | badBinary {tool : Tool} {arguments : Arguments} {fault : CallFault}
      (hbinary : binary host arguments = .error fault) :
    Sends host (.str tool.name) (.obj arguments) .oneLine (failure fault.message)
  | loadFailed {tool : Tool} {arguments : Arguments} {path : String} {fault : LoadFault}
      (hbinary : binary host arguments = .ok path)
      (hload : (host.load (.ofEnvironment host) path).result = .error fault) :
    Sends host (.str tool.name) (.obj arguments) .oneLine (failure fault.text)
  | unanswered {tool : Tool} {arguments : Arguments} {path : String} {survey : Survey} {fault : CallFault}
      (hbinary : binary host arguments = .ok path)
      (hload : (host.load (.ofEnvironment host) path).result = .ok survey)
      (hanswer : writableAnswer tool survey arguments = .error fault) :
    Sends host (.str tool.name) (.obj arguments) .oneLine (failure fault.message)
  | answered {tool : Tool} {arguments : Arguments} {path : String} {survey : Survey} {found : Json}
      (hbinary : binary host arguments = .ok path)
      (hload : (host.load (.ofEnvironment host) path).result = .ok survey)
      (hanswer : writableAnswer tool survey arguments = .ok found) :
    Sends host (.str tool.name) (.obj arguments) .indented found

section

variable {host : Host} {name arguments payload : Json} {layout : Json.Layout}

theorem text_call_of_sends (h : Sends host name arguments layout payload) :
    (call host name arguments).text = payload.text layout := by
  cases h with
  | unknownTool hname =>
    have htool : name.text?.bind Tool.ofName? = none := by
      rw [Option.bind_eq_none_iff]
      intro text htext
      rw [Tool.ofName?_eq_none_iff]
      rintro tool rfl
      cases name with
      | str _ =>
        cases htext
        exact hname tool rfl
      | _ => cases htext
    simp only [call, htool]
    rfl
  | notObject harguments =>
    simp only [call, Json.text?, Option.bind_some, Tool.ofName?_eq_some_iff.mpr rfl, harguments]
    rfl
  | badBinary hbinary =>
    simp only [call_name, Tool.reply, hbinary]
    rfl
  | loadFailed hbinary hload =>
    simp only [call_name, Tool.reply, hbinary, hload]
    rfl
  | unanswered hbinary hload hanswer =>
    simp only [call_name, Tool.reply, hbinary, hload, hanswer]
    rfl
  | answered hbinary hload hanswer =>
    simp only [call_name, Tool.reply, hbinary, hload, hanswer]
    rfl

theorem exists_sends (host : Host) (name arguments : Json) :
    ∃ layout payload, Sends host name arguments layout payload := by
  by_cases hname : ∀ tool : Tool, name ≠ .str tool.name
  · exact ⟨_, _, .unknownTool hname⟩
  · simp only [ne_eq, not_forall, not_not] at hname
    obtain ⟨tool, rfl⟩ := hname
    cases arguments with
    | obj arguments =>
      cases hbinary : binary host arguments with
      | error fault => exact ⟨_, _, .badBinary hbinary⟩
      | ok path =>
        cases hload : (host.load (.ofEnvironment host) path).result with
        | error fault => exact ⟨_, _, .loadFailed hbinary hload⟩
        | ok survey =>
          cases hanswer : writableAnswer tool survey arguments with
          | error fault => exact ⟨_, _, .unanswered hbinary hload hanswer⟩
          | ok found => exact ⟨_, _, .answered hbinary hload hanswer⟩
    | _ => exact ⟨_, _, .notObject rfl⟩

theorem isPayload_of_sends (harguments : arguments.IsPlain) (h : Sends host name arguments layout payload) :
    IsPayload payload := by
  cases h with
  | answered _ _ hanswer => exact isPayload_of_writableAnswer harguments hanswer
  | _ => exact isPayload_failure _

end

/--
The service replies with what it sends for a call, and a reader gets back exactly that.
-/
structure RepliesInFull (host : Host) (name arguments : Json) : Prop where
  exists_sends : ∃ layout payload, Sends host name arguments layout payload
  text_eq : ∀ layout payload, Sends host name arguments layout payload →
    (call host name arguments).text = payload.text layout
  isPayload : ∀ layout payload, Sends host name arguments layout payload → IsPayload payload
  carries : ∀ layout payload, Sends host name arguments layout payload → Carries layout payload

theorem repliesInFull {arguments : Json} (h : arguments.IsPlain) (host : Host) (name : Json) :
    RepliesInFull host name arguments where
  exists_sends := exists_sends host name arguments
  text_eq _ _ hsends := text_call_of_sends hsends
  isPayload _ _ hsends := isPayload_of_sends h hsends
  carries layout _ hsends := Json.carries_of_isPlain layout (isPayload_of_sends h hsends).isPlain

end Service

namespace Console

variable {invocation : Invocation}

theorem isPlain_json (answer : Answer) : answer.json.IsPlain := by
  unfold Answer.json
  split <;> simp [Json.ofAddress?]

theorem run_of_json {terminal : Terminal} {host : Host} {survey : Survey} {answer : Answer}
    (hjson : invocation.json = true) (hload : (host.load invocation.tools invocation.binary).result = .ok survey)
    (h : Answers survey invocation.request answer) :
    ((invocation.run terminal host).exitCode, (invocation.run terminal host).stdout)
      = if answer.json.fits then (0, answer.json.text .oneLine ++ "\n") else (1, "") := by
  rw [Request.run_of_load terminal hjson hload, Request.value, h.check_eq, h.answer_eq]
  rfl

/--
A command that is asked for JSON writes the value that reports its answer, on a line of its own, and a reader gets back
exactly that value. Without such a value it writes nothing.
-/
structure WritesInFull (host : Host) (terminal : Terminal) (invocation : Invocation) : Prop where
  of_reports : ∀ survey value, (host.load invocation.tools invocation.binary).result = .ok survey →
    Reports survey invocation.request value → value.fits = true →
      (invocation.run terminal host).exitCode = 0
        ∧ (invocation.run terminal host).stdout = value.text .oneLine ++ "\n" ∧ Carries .oneLine value
  exists_of_exitCode : (invocation.run terminal host).exitCode = 0 →
    ∃ survey value, (host.load invocation.tools invocation.binary).result = .ok survey
      ∧ Reports survey invocation.request value ∧ IsPayload value
      ∧ (invocation.run terminal host).stdout = value.text .oneLine ++ "\n"
  stdout_eq_empty : (invocation.run terminal host).exitCode ≠ 0 → (invocation.run terminal host).stdout = ""

theorem stdout_of_fails {terminal : Terminal} {host : Host} {message : String} {started : List Command}
    (h : Fails host invocation message started) :
    (invocation.run terminal host).exitCode = 1 ∧ (invocation.run terminal host).stdout = "" := by
  obtain ⟨failure, _, _, before, hrun, _⟩ := exists_outcome_of_fails terminal h
  rw [hrun]
  exact ⟨rfl, rfl⟩

theorem writesInFull (host : Host) (terminal : Terminal) (hjson : invocation.json = true) :
    WritesInFull host terminal invocation where
  of_reports survey value hload hreports hfits := by
    obtain ⟨answer, hanswers, rfl⟩ := hreports.exists_answers
    have hrun := @run_of_json _ terminal _ _ _ hjson hload hanswers
    rw [if_pos hfits, Prod.mk.injEq] at hrun
    exact ⟨hrun.1, hrun.2, Json.carries_of_isPlain .oneLine (isPlain_json answer)⟩
  exists_of_exitCode hzero := by
    rcases exists_fails_or_answers host invocation with ⟨_, _, hfails⟩ | ⟨survey, answer, hload, hanswers⟩
    · rw [(stdout_of_fails hfails).1] at hzero
      cases hzero
    · have hrun := @run_of_json _ terminal _ _ _ hjson hload hanswers
      cases hfits : answer.json.fits with
      | true =>
        rw [hfits, if_pos rfl, Prod.mk.injEq] at hrun
        exact ⟨survey, answer.json, hload, hanswers.reports, ⟨isPlain_json answer, hfits⟩, hrun.2⟩
      | false =>
        simp [hfits, hzero] at hrun
  stdout_eq_empty hnonzero := by
    rcases exists_fails_or_answers host invocation with ⟨_, _, hfails⟩ | ⟨survey, answer, hload, hanswers⟩
    · exact (stdout_of_fails hfails).2
    · have hrun := @run_of_json _ terminal _ _ _ hjson hload hanswers
      split at hrun
      · exact absurd (Prod.mk.inj hrun).1 hnonzero
      · exact (Prod.mk.inj hrun).2

end Console

/--
No JSON that the program writes loses anything. Every text of a plain value denotes that value alone, a call whose
arguments are plain is replied to with such a text, and so is a command that is asked for JSON, on a line of its own.
-/
theorem payloads_carried :
    (∀ layout payload, IsPlain payload → Carries layout payload)
      ∧ (∀ host name arguments, IsPlain arguments → Service.RepliesInFull host name arguments)
      ∧ ∀ host terminal (invocation : Console.Invocation), invocation.json = true →
        Console.WritesInFull host terminal invocation := by
  refine ⟨?_, ?_, ?_⟩
  · intro layout payload h
    exact Json.carries_of_isPlain layout h
  · intro host name arguments h
    exact Service.repliesInFull h host name
  · intro host terminal invocation hjson
    exact Console.writesInFull host terminal hjson

-- The name is made of characters that have to be escaped, one for each way to escape them.
theorem payloads_carried_oddName :
    let name := Json.str "\"\\\n\x00\x7f€😀"
    let arguments := Json.obj [("binary", .str "prog"), ("name", name)]
    let payload := Json.obj [("name", name), ("callers", .strs [])]
    let text := "\x7b\n  \"name\": \"\\\"\\\\\\n\\u0000\\u007f\\u20ac\\ud83d\\ude00\",\n  \"callers\": []\n\x7d"
    payload.text .indented = text ∧ IsPlain payload ∧ (∀ value, Denotes text value ↔ value = payload)
      ∧ IsPlain arguments ∧ (Service.call Service.silentHost (.str "bincall_callers") arguments).text = text := by
  intro name arguments payload text
  have htext : payload.text .indented = text := by decide +kernel
  have hplain : IsPlain payload := by simp [payload, name]
  have harguments : IsPlain arguments := by simp [arguments, name]
  obtain ⟨hcarries, hreplies, _⟩ := payloads_carried
  refine ⟨htext, hplain, htext ▸ (hcarries .indented payload hplain).denotes_iff, harguments, ?_⟩
  rw [(hreplies Service.silentHost _ _ harguments).text_eq .indented payload, htext]
  exact @Service.Sends.answered Service.silentHost .callers _ "prog" _ _ rfl rfl rfl

end CallScope
