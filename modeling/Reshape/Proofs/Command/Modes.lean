import Reshape.Command.Run
import Reshape.Proofs.Convert.Steps
import Reshape.Proofs.Json.Printable
import Reshape.Proofs.Read.Keys
import Reshape.Proofs.Value.Shown

namespace Reshape.Command

section Items

variable {convert : Value → Except Failure Value} {before rest items values : List Value}

theorem convertItems_append (converted : before.map convert = values.map .ok) (position : Nat) :
    convertItems convert position (before ++ rest) =
      (values ++ (convertItems convert (position + before.length) rest).1,
        (convertItems convert (position + before.length) rest).2) := by
  induction before generalizing values position with
  | nil =>
      cases values with
      | nil => rfl
      | cons value others => contradiction
  | cons item later ih =>
      cases values with
      | nil => contradiction
      | cons value others =>
          obtain ⟨here, behind⟩ := List.cons.inj converted
          have onward := ih behind (position + 1)
          rw [Nat.add_right_comm, Nat.add_assoc] at onward
          rw [List.cons_append, convertItems, here]
          dsimp only
          rw [onward]
          rfl

theorem convertItems_of_converted (converted : items.map convert = values.map .ok) :
    convertItems convert 0 items = (values, none) := by
  have whole : convertItems convert 0 (items ++ []) = _ := convertItems_append converted 0
  rwa [List.append_nil, convertItems, List.append_nil] at whole

theorem convertItems_of_failed {item : Value} {after : List Value} {failure : Failure}
    (converted : before.map convert = values.map .ok) (failed : convert item = .error failure) :
    convertItems convert 0 (before ++ item :: after) =
      (values, some (failure.atItem before.length)) := by
  rw [convertItems_append converted, convertItems, failed, Nat.zero_add]
  simp

end Items

section Lines

theorem read?_of_scan {text : String} {tokens : List Json.Token}
    (scanned : Json.Token.scan? text.toList = some tokens) :
    Json.read? text = (Json.ofTokens? Json.nestingLimit tokens).map Json.Node.value := by
  rw [Json.read?, Json.Node.read?, Json.Node.readWithin?, scanned]
  rfl

/-- A line that counts as an item. -/
def isFilled (line : String) : Bool := !line.toList.all Text.isBlank

theorem valuesOfLines_of_read {lines : List String} {items : List Value}
    (read : (lines.filter isFilled).map Json.read? = items.map some) (path : String) (line : Nat) :
    valuesOfLines path line lines = .ok items := by
  induction lines generalizing items line with
  | nil =>
      cases items with
      | nil => rfl
      | cons item others => contradiction
  | cons text rest ih =>
      rw [valuesOfLines]
      cases blank : text.toList.all Text.isBlank with
      | true =>
          have dropped : (text :: rest).filter isFilled = rest.filter isFilled :=
            List.filter_cons_of_neg (by simp [isFilled, blank])
          rw [dropped] at read
          exact ih read (line + 1)
      | false =>
          have kept : (text :: rest).filter isFilled = text :: rest.filter isFilled :=
            List.filter_cons_of_pos (by simp [isFilled, blank])
          rw [kept] at read
          cases items with
          | nil => contradiction
          | cons item others =>
              obtain ⟨here, behind⟩ := List.cons.inj read
              simp [here, ih behind (line + 1), Except.map]

end Lines

section Printing

theorem printed_of_unbroken {text : String} (unbroken : '\n' ∉ text.toList) :
    printed text = text ++ "\n" := by
  have kept : text.toList.reverse.dropWhile (· == '\n') = text.toList.reverse := by
    cases back : text.toList.reverse with
    | nil => rfl
    | cons last front =>
        have member : last ∈ text.toList := List.mem_reverse.mp (back ▸ List.mem_cons_self)
        have different : last ≠ '\n' := fun same => unbroken (same ▸ member)
        rw [List.dropWhile_cons, if_neg (by simpa using different)]
  rw [printed, trimLineFeeds, kept, List.reverse_reverse, String.ofList_toList]

theorem charsOfItems_eq (items : List View) :
    View.charsOfItems items = [','].intercalate (items.map View.chars) := by
  induction items with
  | nil => rfl
  | cons item rest ih =>
      cases rest with
      | nil => simp [View.charsOfItems]
      | cons next others =>
          rw [View.charsOfItems, ih]
          · simp only [List.map_cons, List.intercalate_cons_cons, List.append_assoc,
              List.singleton_append]
          · exact List.cons_ne_nil next others

variable [Record.Accessors]

theorem text_list (values : List Value) :
    (Value.list values).text = "[" ++ ",".intercalate (values.map Value.text) ++ "]" := by
  have inner : (",".intercalate (values.map Value.text)).toList =
      [','].intercalate ((values.map Value.view).map View.chars) := by
    rw [String.toList_intercalate, List.map_map, List.map_map]
    congr 2
    funext value
    exact String.toList_ofList
  apply String.toList_inj.mp
  rw [Value.text, Value.view, View.text, String.toList_ofList, View.chars, charsOfItems_eq,
    Value.viewItems_eq, String.toList_append, String.toList_append, inner]
  rfl

/-- The JSON texts of values, each on a line of its own. -/
def textLines (values : List Value) : String :=
  String.join (values.map fun value => value.text ++ "\n")

theorem record_json {session : Session} (json : session.format = .json) (value : Value) :
    session.record value = value.text ++ "\n" := by
  rw [Session.record, json]
  exact printed_of_unbroken value.newline_not_mem_text

theorem join_records_json {session : Session} (json : session.format = .json)
    (values : List Value) : String.join (values.map session.record) = textLines values := by
  rw [textLines, funext (record_json json)]

theorem document_json {session : Session} (json : session.format = .json) (value : Value) :
    session.document value = value.text ++ "\n" := by
  rw [Session.document, json]
  exact printed_of_unbroken value.newline_not_mem_text

end Printing

theorem Run.after_after (run : Run) (inner outer : List String) :
    (run.after inner).after outer = run.after (outer ++ inner) := by
  simp [Run.after]

theorem Run.outcome_after [Record.Accessors] (run : Run) (reports : List String) :
    (run.after reports).outcome =
      { run.outcome with reports := reports ++ run.outcome.reports } := by
  obtain ⟨output, own, _ | failure⟩ := run
  · rfl
  · simp [Run.after, Run.outcome]

section Runs

variable {session : Session} {convert : Value → Except Failure Value}
  {before items values after : List Value} {item : Value} {failure : Failure}

variable [Record.Accessors]

theorem runLines_of_converted (json : session.format = .json)
    (converted : items.map convert = values.map .ok) :
    runLines session convert items =
      { output := textLines values
        reports := session.reports [convertedReport items.length] } := by
  simp only [runLines, convertItems_of_converted converted, join_records_json json]
  rfl

theorem runEach_of_converted (json : session.format = .json)
    (converted : items.map convert = values.map .ok) :
    runEach session convert items =
      { output := (Value.list values).text ++ "\n"
        reports := session.reports [convertedReport items.length] } := by
  simp only [runEach, convertItems_of_converted converted, document_json json]

theorem runLines_of_failed (json : session.format = .json)
    (converted : before.map convert = values.map .ok) (failed : convert item = .error failure) :
    runLines session convert (before ++ item :: after) =
      { output := textLines values, failure := some (failure.atItem before.length) } := by
  simp only [runLines, convertItems_of_failed converted failed, join_records_json json]
  rfl

theorem runEach_of_failed (converted : before.map convert = values.map .ok)
    (failed : convert item = .error failure) :
    runEach session convert (before ++ item :: after) = .failed (failure.atItem before.length) := by
  simp only [runEach, convertItems_of_failed converted failed]

end Runs

/-- A command line that asks for a conversion with its results as JSON, and what its run goes
by: the arguments, the settings that it finds, and the schema. The converter and the mode are
what these come to. -/
structure JsonConversion [Record.Accessors] (schema : Schema) (converter : Converter) (strict : Bool)
    (mode : Mode) where
  host : Host
  words : List String
  arguments : Arguments
  parsed : Arguments.parse (host.environment "SCHEMATOR_CONFIG") words = .ok arguments
  json : arguments.output = some .json
  schemaPath : String
  input : Option String
  asked : Bool
  task : arguments.task = .convert schemaPath input mode asked
  warnings : List String
  settings : Settings
  loaded : Settings.load host arguments.config = .ok (warnings, settings)
  found : host.readSchema schemaPath = .ok schema
  configured : Session.converter ⟨settings.override arguments, arguments.quiet⟩ = .ok converter
  strictly : (asked || settings.converter.strict) = strict

namespace JsonConversion

variable [Record.Accessors] {schema : Schema} {converter : Converter} {strict : Bool} {mode : Mode}
  (conversion : JsonConversion schema converter strict mode)

def session : Session :=
  { settings := conversion.settings.override conversion.arguments
    quiet := conversion.arguments.quiet }

def source : Source := .ofPath? conversion.input

theorem format_session : conversion.session.format = .json := by
  rw [Session.format, session, Settings.override, conversion.json]
  rfl

theorem exists_run : ∃ reports, run conversion.host conversion.words =
    some ((runMode conversion.host conversion.session
      (fun source => resultOf (converter.convert source schema strict))
      conversion.source mode).after reports).outcome := by
  have strictly : (conversion.asked || conversion.session.strict) = strict := conversion.strictly
  have configured : conversion.session.converter = .ok converter := conversion.configured
  let logged := loggingWarnings conversion.host conversion.arguments
    conversion.session.settings.logging
  let issues := (converter.check schema).map fun issue => "WARNING: Schema issue " ++ issue.text
  refine ⟨(conversion.warnings ++ logged) ++ conversion.session.reports issues, ?_⟩
  rw [run, conversion.parsed, ← Run.after_after]
  dsimp only
  rw [runArguments, conversion.loaded, Run.ofExcept, conversion.task]
  change some (((runConvert _ conversion.session _ _ _ _).after _).outcome) = _
  rw [runConvert, conversion.found, Run.ofExcept, configured, Run.ofExcept, strictly]
  rfl

end JsonConversion

def itemLine [Record.Accessors] (position : Nat) (error : Error) : String :=
  "error[" ++ error.kind.name ++ "]: Item " ++ toString position ++ ": " ++ error.message

theorem getLast?_lines_item [Record.Accessors] (reports : List String) (position : Nat) (error : Error) :
    (reports ++ (Failure.item position error).lines).getLast? = some (itemLine position error) := by
  have between : "]: Item " = "]:" ++ (" " ++ "Item ") := by decide
  have only : (Failure.item position error).lines =
      ["error[" ++ error.kind.name ++ "]:" ++ " " ++
        ("Item " ++ toString position ++ ": " ++ error.message)] := rfl
  have same : (Failure.item position error).lines = [itemLine position error] := by
    rw [only, itemLine, between]
    simp only [String.append_assoc]
  rw [same, List.getLast?_concat]

/-- A run over a list of items and a run over lines that hold the same items agree. If every
item converts, both end well, and the one prints the list of the very texts that the other
prints on lines. If an item fails, both report it with its position among the items; by then
the one has printed nothing and the other the values before that item. -/
theorem modes_agree [Record.Accessors] {schema : Schema} {converter : Converter} {strict : Bool}
    (each : JsonConversion schema converter strict .each)
    (lines : JsonConversion schema converter strict .lines) {items : List Value} {text : String}
    (document : each.host.readDocument each.source = .ok (.list items))
    (source : lines.host.readSource lines.source = .ok text)
    (read : ((linesOf text).filter isFilled).map Json.read? = items.map some) :
    ∃ whole streamed, run each.host each.words = some whole ∧
      run lines.host lines.words = some streamed ∧
      (∀ values, items.map (converter.convert · schema strict) = values.map pure →
        whole.exitCode = 0 ∧ streamed.exitCode = 0 ∧
        whole.output = "[" ++ ",".intercalate (values.map Value.text) ++ "]\n" ∧
        streamed.output = textLines values ∧ ∀ value ∈ values, '\n' ∉ value.text.toList) ∧
      (∀ before item after values error, items = before ++ item :: after →
        before.map (converter.convert · schema strict) = values.map pure →
        converter.convert item schema strict = throw error →
        whole.exitCode = 8 ∧ streamed.exitCode = 8 ∧
        whole.reports.getLast? = some (itemLine before.length error) ∧
        streamed.reports.getLast? = some (itemLine before.length error) ∧
        whole.output = "" ∧ streamed.output = textLines values) := by
  let convert (source : Value) := resultOf (converter.convert source schema strict)
  have converts {items values : List Value}
      (converted : items.map (converter.convert · schema strict) = values.map pure) :
      items.map convert = values.map .ok := by
    have results := congrArg (List.map resultOf) converted
    rwa [List.map_map, List.map_map] at results
  obtain ⟨eachReports, eachRun⟩ := each.exists_run
  obtain ⟨linesReports, linesRun⟩ := lines.exists_run
  have gathered : runMode each.host each.session convert each.source .each =
      runEach each.session convert items := by
    rw [runMode, document, Run.ofExcept]
  have taken : runMode lines.host lines.session convert lines.source .lines =
      runLines lines.session convert items := by
    rw [runMode, Host.readLines, source]
    simp only [bind, Except.bind, valuesOfLines_of_read read, Run.ofExcept]
  rw [gathered, Run.outcome_after] at eachRun
  rw [taken, Run.outcome_after] at linesRun
  refine ⟨_, _, eachRun, linesRun, ?_, ?_⟩
  · intro values converted
    rw [runEach_of_converted each.format_session (converts converted),
      runLines_of_converted lines.format_session (converts converted)]
    refine ⟨rfl, rfl, ?_, rfl, fun value _ => value.newline_not_mem_text⟩
    change (Value.list values).text ++ "\n" = _
    rw [text_list, String.append_assoc]
    rfl
  · intro before item after values error split converted failed
    subst split
    have fails : convert item = .error (.conversion error) := by
      simp only [convert, failed]
      rfl
    rw [runEach_of_failed (converts converted) fails,
      runLines_of_failed lines.format_session (converts converted) fails]
    refine ⟨rfl, rfl, ?_, ?_, rfl, rfl⟩
    · exact getLast?_lines_item _ _ _
    · exact getLast?_lines_item _ _ _

/-- The second of three items misses what the schema asks for, and a blank line stands before
it. -/
theorem modes_agree_failing :
    let host (input : String) : Host :=
      { file := fun path =>
          if path = "schema.json" then .text "\x7b\"b\":\"a\"\x7d" else .missing
        input
        environment := fun _ => none }
    let words (option : String) := ["convert", option, "-o", "json", "--strict", "schema.json"]
    let listText := "[\x7b\"a\":true\x7d,\x7b\x7d,null]"
    let linesText := "\x7b\"a\":true\x7d\n\n\x7b\x7d\nnull"
    let message := "error[CannotGetValue]: Item 1: Cannot get value by key 'a': " ++
      "Key 'a' does not exist at ''"
    ∃ whole streamed,
      run (host listText) (words "--each") = some whole ∧
      run (host linesText) (words "--lines") = some streamed ∧
      whole.exitCode = 8 ∧ streamed.exitCode = 8 ∧
      whole.reports.getLast? = some message ∧ streamed.reports.getLast? = some message ∧
      whole.output = "" ∧ streamed.output = "\x7b\"b\":true\x7d\n" := by
  intro host words listText linesText message
  let schema : Schema := { entries := [("b", .string "a")] }
  let converter : Converter := { filters := .standard }
  let arguments (mode : Mode) : Arguments :=
    { output := some .json, task := .convert "schema.json" none mode true }
  let present : Value := .map [("a", .bool true)]
  have found (input : String) : (host input).readSchema "schema.json" = .ok schema := by
    have read : Json.read? "\x7b\"b\":\"a\"\x7d" = some (.map [("b", .string "a")]) := by
      rw [@read?_of_scan _ [.openMap, .string "b", .colon, .string "a", .closeMap]
        (by decide +kernel)]
      rfl
    have json : Format.ofPath "schema.json" = .json := by decide +kernel
    simp only [Host.readSchema, json, Host.readFile, host, if_true, Format.readSchema?, read,
      Format.read?, bind, Except.bind, Option.bind]
    rfl
  let conversion (mode : Mode) (option input : String)
      (parsed : Arguments.parse none (words option) = .ok (arguments mode)) :
      JsonConversion schema converter true mode :=
    { host := host input, words := words option, arguments := arguments mode, parsed
      json := rfl, schemaPath := "schema.json", input := none, asked := true, task := rfl
      warnings := [], settings := {}, loaded := rfl, found := found input, configured := rfl
      strictly := rfl }
  let items : List Value := [present, .map [], .null]
  have document : (host listText).readDocument .input = .ok (.list items) := by
    have read : Json.read? listText = some (.list items) := by
      rw [@read?_of_scan _ [.openList, .openMap, .string "a", .colon, .bool true, .closeMap,
        .comma, .openMap, .closeMap, .comma, .null, .closeList] (by decide +kernel)]
      rfl
    simp only [Host.readDocument, Source.format, Format.read?, Host.readSource, host, read, bind,
      Except.bind, pure, Except.pure]
  have read : ((linesOf linesText).filter isFilled).map Json.read? = items.map some := by
    have filled : (linesOf linesText).filter isFilled =
        ["\x7b\"a\":true\x7d", "\x7b\x7d", "null"] := by decide +kernel
    rw [filled, List.map_cons, List.map_cons, List.map_cons,
      @read?_of_scan _ [.openMap, .string "a", .colon, .bool true, .closeMap] (by decide +kernel),
      @read?_of_scan _ [.openMap, .closeMap] (by decide +kernel),
      @read?_of_scan _ [.null] (by decide +kernel)]
    rfl
  have looked (source : Value) : converter.lookupWithin Converter.lookupDepth source
      (.string "a") true = converter.select source "a" true :=
    Converter.lookupWithin_path 4095 source "a" true
  have converted : converter.convert present schema true = pure (.map [("b", .bool true)]) := by
    have selected : converter.select present "a" true = pure (.bool true) :=
      Converter.select_of_read (by decide) rfl
        ((Value.read_strict_keys_iff .dot present ["a"] rfl).mpr rfl)
    have written : (Value.map []).writeSet .dot (.text "b") (.bool true) =
        { root := .map [("b", .bool true)] } := rfl
    simp only [Converter.convert, Converter.convertWithin, schema]
    rw [Converter.convertEntries_cons_of_written ((looked present).trans selected) (by decide)
      written rfl]
    rfl
  have failed : converter.convert (.map []) schema true =
      throw (.cannotGet "a" (.map []) (.notExist "a" "")) := by
    have stops : (Value.map []).Stops ["a"] [] "a" [] (.map []) := ⟨rfl, rfl, rfl⟩
    have unread : converter.select (.map []) "a" true =
        throw (.cannotGet "a" (.map []) (.notExist "a" "")) :=
      Converter.select_of_unread (by decide) rfl (Value.read_of_stops .dot _ ["a"] rfl stops)
    exact Converter.convertEntries_cons_of_failure ((looked (.map [])).trans unread)
  have reported : itemLine 1 (.cannotGet "a" (.map []) (.notExist "a" "")) = message := by
    decide +kernel
  obtain ⟨whole, streamed, eachRun, linesRun, -, failing⟩ :=
    modes_agree (conversion .each "--each" listText (by decide +kernel))
      (conversion .lines "--lines" linesText (by decide +kernel)) document rfl read
  obtain ⟨eachCode, linesCode, eachLine, linesLine, eachOutput, linesOutput⟩ :=
    failing [present] (.map []) [.null] [.map [("b", .bool true)]] _ rfl
      (congrArg (fun result => [result]) converted) failed
  exact ⟨whole, streamed, eachRun, linesRun, eachCode, linesCode,
    eachLine.trans (congrArg some reported), linesLine.trans (congrArg some reported),
    eachOutput, linesOutput⟩

end Reshape.Command
