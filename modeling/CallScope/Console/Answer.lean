import CallScope.Console.Terminal
import CallScope.Json.Writer
import CallScope.Survey.Query

/-!
This module contains what the commands print, as texts with marks for their style or as JSON.
-/

namespace CallScope.Console

inductive Answer where
  | stats (survey : Survey)
  | location (location : Location)
  | callers (name : String) (callers : List String)
  | callees (name : String) (callees : List String)
  | reach (root target : String) (found : Reach)

/--
The function of the entry point. That there is none is no failure.
-/
def entryFunction? (survey : Survey) : Option String :=
  match survey.table.entryPoint with
  | .ok address => survey.table.nameAt? address
  | .error _ => none

namespace Answer

def json : Answer → Json
  | .stats survey =>
    .obj [("symbols", .int survey.tally.symbols), ("instructions", .int survey.tally.instructions),
      ("call_sites", .int survey.tally.callSites), ("unresolved", .int survey.tally.unresolved),
      ("functions", .int survey.graph.numNodes), ("edges", .int survey.tally.edges),
      ("entry_point", .ofAddress? survey.table.entryPoint?),
      ("entry_function", .ofOption .str (entryFunction? survey))]
  | .location ⟨_, none⟩ => .null
  | .location ⟨address, some symbol⟩ =>
    .obj [("name", .str symbol.name), ("address", .str symbol.address.text),
      ("offset", .int (symbol.offset address))]
  | .callers name names => .obj [("name", .str name), ("callers", .strs names)]
  | .callees name names => .obj [("name", .str name), ("callees", .strs names)]
  | .reach root target found =>
    .obj [("root", .str root), ("root_address", .ofAddress? found.rootAddress?),
      ("target", .str target), ("reachable", .int found.reachable.length),
      ("callers", .strs found.callers)]

/--
Names one a text, after a heading, or a text that says there are none.
-/
def nameTexts (heading : List String) (indent none : String) : List String → List String
  | [] => ["  [dim]" ++ none ++ "[/]"]
  | names => heading ++ names.map fun name => indent ++ "[cyan]" ++ name ++ "[/]"

def texts : Answer → List String
  | .stats survey =>
    ["Symbols: " ++ Numeral.decimalText survey.tally.symbols,
      "Call sites: " ++ Numeral.decimalText survey.tally.callSites
        ++ " [dim](" ++ Numeral.decimalText survey.tally.unresolved ++ " unresolved)[/]",
      "Functions in graph: " ++ Numeral.decimalText survey.graph.numNodes,
      "Edges: " ++ Numeral.decimalText survey.tally.edges]
    ++ match survey.table.entryPoint? with
      | none => []
      | some entry =>
        ["Entry point: " ++ entry.text ++ " ([cyan]" ++ (entryFunction? survey).getD "None" ++ "[/])"]
  | .location ⟨address, none⟩ => ["No function at or below [cyan]" ++ address.text ++ "[/cyan]"]
  | .location ⟨address, some symbol⟩ =>
    ["[cyan]" ++ symbol.name ++ "[/cyan]+" ++ Address.text (symbol.offset address)
      ++ " [dim](starts at " ++ symbol.address.text ++ ")[/]"]
  | .callers name names =>
    ["\n[bold cyan]" ++ name ++ "[/]"] ++ nameTexts ["  [green]Called by:[/]"] "    " "No callers found" names
  | .callees name names =>
    ["\n[bold cyan]" ++ name ++ "[/]"] ++ nameTexts ["  [green]Calls:[/]"] "    " "No calls found" names
  | .reach root target found =>
    ["\n[bold]Callers of [cyan]" ++ target ++ "[/cyan] reachable from [cyan]" ++ root ++ "[/cyan][/]"]
    ++ (match found.rootAddress? with
      | none => []
      | some address => ["[dim]" ++ root ++ " starts at " ++ address.text ++ "[/]"])
    ++ ["[dim]" ++ Numeral.decimalText found.reachable.length ++ " functions reachable[/]"]
    ++ nameTexts [] "  " "No reachable callers found" found.callers

/--
Print an answer. JSON is written by itself, whatever the terminal does.
-/
def print (answer : Answer) (terminal : Terminal) (json : Bool) : Printed :=
  if !json then terminal.print answer.texts
  else if answer.json.fits then { text := answer.json.text .oneLine ++ "\n" }
  else { text := "", breach? := some .overlong }

end Answer

end CallScope.Console
