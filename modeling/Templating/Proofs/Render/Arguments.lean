import Templating.Proofs.Json.Canonical
import Templating.Proofs.Markup.Entity

/-!
# Arguments of calls

The arguments of a call go through two encodings: each is written as JSON, and
what stands behind the name of the function is escaped.  Undoing both gives the
arguments back, whatever marks of HTML or of JSON they hold themselves.
-/

namespace Templating.Render

open Json

/-- No number with a fraction, no value that denotes nothing, and no object with
two fields of one name is in the value. -/
def isExact (value : Json) : Bool :=
  value.discrete && value.hasDistinctNames

/-- What stands behind the name of the function cannot end a quoted attribute,
and read as HTML and then as JSON it gives the values. -/
structure CarriesArguments (call : String) (values : List Json) : Prop where
  /-- No bracket and no quote is in it. -/
  unmarked : ∀ mark ∈ ['<', '>', '"', '\''], mark ∉ call.toList
  /-- Every ampersand starts an entity. -/
  entity : ∀ before after, call.toList = before ++ '&' :: after →
    ∃ entity ∈ ["&amp;", "&lt;", "&gt;", "&quot;", "&apos;"],
      entity.toList <+: '&' :: after
  /-- With its entities replaced once it is a list in parentheses that reads as
  the values. -/
  readBack : ∃ arguments, Markup.unescape call = "(" ++ arguments ++ ")" ∧
    ∃ others, Json.read ("[" ++ arguments ++ "]") = .ok (.array others) ∧
      List.Forall₂ Same values others

/-! ## Joined arguments -/

/-- The texts of values with commas between them. -/
def joined (values : List Json) : String :=
  ",".intercalate (values.map Json.print)

theorem joined_cons_cons (first second : Json) (rest : List Json) :
    joined (first :: second :: rest) =
      first.print ++ "," ++ joined (second :: rest) :=
  String.intercalate_cons_cons

theorem written_append_writtenItems (first : Json) (rest : List Json) :
    written first ++ writtenItems rest =
      (joined (first :: rest)).toList ++ [']'] := by
  induction rest generalizing first with
  | nil => simp [joined, Json.print, writtenItems]
  | cons second others inductionHypothesis =>
      rw [joined_cons_cons, String.toList_append, List.append_assoc,
        ← inductionHypothesis second, String.toList_append, Json.print,
        String.toList_ofList, List.append_assoc]
      rfl

/-- An array is written as its items with commas between them. -/
theorem print_array (values : List Json) :
    (Json.array values).print = "[" ++ joined values ++ "]" := by
  apply String.toList_injective
  rw [Json.print, String.toList_ofList, String.toList_append,
    String.toList_append]
  cases values with
  | nil => rfl
  | cons first rest =>
      rw [written, List.cons_append, written_append_writtenItems]
      rfl

/-- Commas are not escaped, so escaped texts are joined as their texts are. -/
theorem intercalate_escape (values : List Json) :
    ",".intercalate (values.map fun value => Markup.escape value.print) =
      Markup.escape (joined values) := by
  induction values with
  | nil => rfl
  | cons first rest inductionHypothesis =>
      cases rest with
      | nil => simp [joined]
      | cons second others =>
          rw [joined_cons_cons, Markup.escape_append, Markup.escape_append,
            ← inductionHypothesis]
          exact String.intercalate_cons_cons

/-- A call is the name of the function in front of the escaped arguments. -/
theorem callText_eq (function : String) (values : List Json) :
    callText function
        (values.map fun value => (ScriptArgument.json value).encode) =
      function ++
        Markup.escape ("(" ++ joined (canonicalItems values) ++ ")") := by
  have arguments :
      (values.map fun value => (ScriptArgument.json value).encode) =
        (canonicalItems values).map fun value => Markup.escape value.print := by
    rw [canonicalItems_eq, List.map_map]
    rfl
  rw [callText, arguments, intercalate_escape, Markup.escape_append,
    Markup.escape_append, ← String.append_assoc, ← String.append_assoc]
  rfl

/-! ## Calls -/

theorem isExact_array {values : List Json}
    (areExact : ∀ value ∈ values, isExact value = true) :
    isExact (.array values) = true := by
  rw [isExact, discrete, hasDistinctNames]
  induction values with
  | nil => rfl
  | cons value rest inductionHypothesis =>
      rw [List.forall_mem_cons, isExact, Bool.and_eq_true] at areExact
      have others := inductionHypothesis areExact.2
      rw [Bool.and_eq_true] at others
      rw [discreteItems, itemsHaveDistinctNames, areExact.1.1, areExact.1.2,
        others.1, others.2]
      rfl

/-- A call of a function carries its arguments: behind the name stands no mark
that could end a quoted attribute, and what stands there is, with its entities
replaced once, an argument list that reads as exactly the values. -/
theorem call_carries_arguments (function : String) {values : List Json}
    (areExact : ∀ value ∈ values, isExact value = true) :
    ∃ call,
      callText function
          (values.map fun value => (ScriptArgument.json value).encode) =
        function ++ call ∧
      CarriesArguments call values := by
  have isExactArray := isExact_array areExact
  rw [isExact, Bool.and_eq_true] at isExactArray
  rcases isExactArray with ⟨isDiscrete, distinct⟩
  refine ⟨_, callText_eq function values, ?_, ?_, ?_⟩
  · intro mark isMark
    exact Markup.not_mem_escape isMark _
  · intro before after found
    exact Markup.entity_of_mem_escape found
  · refine ⟨_, Markup.unescape_escape _, canonicalItems values, ?_, ?_⟩
    · rw [← print_array]
      exact read_print (discrete_canonicalItems values isDiscrete distinct)
    · exact same_canonicalItems values distinct

/-- Values full of marks, with an object whose fields are out of order. -/
def hostileArguments : List Json :=
  [.text "&quot;);</script>\",[1", .array [.null, .integer ⟨-7, by decide⟩],
    .object [("b\\", .boolean true), ("a'", .text "\n&amp;")]]

theorem hostile_call_carries_arguments :
    (∀ value ∈ hostileArguments, isExact value = true) ∧
      ∃ call,
        callText "f" (hostileArguments.map fun value =>
            (ScriptArgument.json value).encode) = "f" ++ call ∧
        CarriesArguments call hostileArguments := by
  have areExact : ∀ value ∈ hostileArguments, isExact value = true := by
    simp only [hostileArguments, List.forall_mem_cons]
    exact ⟨by decide, by decide, by decide, List.forall_mem_nil _⟩
  exact ⟨areExact, call_carries_arguments "f" areExact⟩

end Templating.Render
