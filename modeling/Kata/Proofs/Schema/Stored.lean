import Kata.Proofs.Json.RoundTrip
import Kata.Proofs.Name.Identifiers

/-!
# Stored schemas

A schema that is stored with a problem is the schema of the problem, whatever else is known about
it: a schema names at least one parameter, its names are identifiers, and the name of a data type is
one of the spellings of the type. So nothing is left for the later sources to fill in.
-/

namespace Kata

theorem DataType.ofSpelling?_name
    (type : DataType) :
    ofSpelling? type.name = some type := by
  cases type <;> decide

namespace Schema

/-! ## Reading a schema in JSON -/

/-- A parameter in JSON. -/
def Param.toJson (param : Param) : Json :=
  .object [("name", .string param.name), ("type", .string param.type.name)]

/-- What a schema says when it is stored. -/
def toStored (schema : Schema) : Stored where
  parameters := schema.params.map fun param => ⟨some param.name, some param.type⟩
  returnType? := some schema.returnType

theorem readParameter_toJson
    (param : Param) :
    readParameter param.toJson = ⟨some param.name, some param.type⟩ := by
  have spelled : spelledType? (some (.string param.type.name)) = some param.type :=
    DataType.ofSpelling?_name param.type
  exact congrArg (Prototype.Parameter.mk (some param.name)) spelled

/-- The object that a schema is written as says what the schema says. -/
theorem ofObject_toJson
    (schema : Schema) :
    Stored.ofObject schema.toJson = schema.toStored := by
  have spelled :
      spelledType? (some (.string schema.returnType.name)) = some schema.returnType :=
    DataType.ofSpelling?_name schema.returnType
  have parameters :
      (schema.params.map Param.toJson).map readParameter = schema.toStored.parameters := by
    rw [List.map_map]
    exact List.map_congr_left fun param _ => readParameter_toJson param
  change
    Stored.mk ((schema.params.map Param.toJson).map readParameter)
      (spelledType? (some (.string schema.returnType.name))) = schema.toStored
  rw [parameters, spelled]
  rfl

theorem ofJson?_text
    {schema : Schema} {text : Text} (parsed : Json.parse text = .ok schema.toJson) :
    Stored.ofJson? (some (.string text)) = schema.toStored := by
  rw [Stored.ofJson?, parsed]
  exact ofObject_toJson schema

/-! ## The text of a schema -/

theorem itemsAreExact_params
    (params : List Param) :
    Json.itemsAreExact (params.map Param.toJson) = true := by
  induction params with
  | nil => rfl
  | cons param params inductionHypothesis => exact inductionHypothesis

theorem itemsHaveDistinctKeys_params
    (params : List Param) :
    Json.itemsHaveDistinctKeys (params.map Param.toJson) = true := by
  induction params with
  | nil => rfl
  | cons param params inductionHypothesis =>
      have distinct : Json.hasDistinctKeys param.toJson = true := rfl
      rw [List.map_cons, Json.itemsHaveDistinctKeys, distinct, inductionHypothesis]
      rfl

theorem nestingOfItems_params
    (params : List Param) :
    Json.nestingOfItems (params.map Param.toJson) ≤ 1 := by
  induction params with
  | nil => exact Nat.zero_le 1
  | cons param params inductionHypothesis =>
      exact Nat.max_le.2 ⟨Nat.le_refl 1, inductionHypothesis⟩

/-- The text of a schema is read back, also with blanks behind its commas and colons. -/
theorem parse_spaced_toJson
    {gap : Text} (blank : ∀ c ∈ gap, Json.isSpace c = true) (schema : Schema) :
    Json.parse (Json.spaced gap schema.toJson) = .ok schema.toJson := by
  have exact : Json.isExact schema.toJson = true := by
    change (Json.itemsAreExact (schema.params.map Param.toJson) && true) = true
    rw [itemsAreExact_params]
    rfl
  have distinct : Json.hasDistinctKeys schema.toJson = true := by
    change (true && (Json.itemsHaveDistinctKeys (schema.params.map Param.toJson) && true)) = true
    rw [itemsHaveDistinctKeys_params]
    rfl
  have shallow : Json.nesting schema.toJson < Json.depthLimit := by
    have params := nestingOfItems_params schema.params
    have limit : Json.depthLimit = 128 := rfl
    change max (Json.nestingOfItems (schema.params.map Param.toJson) + 1) (max 0 0) + 1 < _
    omega
  exact Json.parse_spaced blank exact distinct shallow

theorem parse_compact_toJson
    (schema : Schema) :
    Json.parse (Json.compact schema.toJson) = .ok schema.toJson := by
  rw [Json.compact_eq_spaced]
  exact parse_spaced_toJson (List.forall_mem_nil _) schema

/-! ## Stored schemas come first -/

theorem params_ofProblem_ne_nil
    (problem : Problem) :
    (ofProblem problem).params ≠ [] := by
  have named : (Sources.ofProblem problem).names ≠ [] := by
    rw [Sources.names]
    split
    · next stored => simpa using stored
    · split
      · next prototype => simpa using prototype
      · simp
  intro noParams
  have length := congrArg List.length noParams
  change (List.map _ (Sources.ofProblem problem).names.zipIdx).length = 0 at length
  rw [List.length_map, List.length_zipIdx] at length
  exact named (List.length_eq_zero_iff.1 length)

section Sources

variable {schema : Schema} {sources : Sources} (stored : sources.stored = schema.toStored)
include stored

theorem names_of_stored
    (nonempty : schema.params ≠ []) :
    sources.names = schema.params.map fun param => some param.name := by
  have present : (!sources.stored.parameters.isEmpty) = true := by
    rw [stored]
    simpa [toStored] using nonempty
  rw [Sources.names, if_pos present, stored, toStored, List.map_map]
  rfl

theorem param_of_stored
    {param : Param} {index : Nat} (found : schema.params[index]? = some param)
    (identifier : Name.isIdentifier param.name = true) :
    sources.param (some param.name) index = param := by
  have name : (some param.name).bind Name.identifier? = some param.name :=
    Name.identifier?_of_isIdentifier identifier
  have type : sources.stored.parameters[index]? = some ⟨some param.name, some param.type⟩ := by
    rw [stored, toStored, List.getElem?_map, found]
    rfl
  rw [Sources.param, Sources.paramType, name, type]
  rfl

/-- Sources with a stored schema make up this schema, whatever else they hold. -/
theorem schema_of_stored
    (nonempty : schema.params ≠ []) (identifiers : schema.HasIdentifiers) :
    sources.schema = schema := by
  have params : sources.schema.params = schema.params := by
    apply List.ext_getElem?
    intro index
    change (sources.names.zipIdx.map fun named => sources.param named.1 named.2)[index]? = _
    rw [names_of_stored stored nonempty, List.getElem?_map, List.getElem?_zipIdx, List.getElem?_map]
    cases found : schema.params[index]? with
    | none => rfl
    | some param =>
        have identifier := identifiers param (List.mem_of_getElem? found)
        have same := param_of_stored stored found identifier
        rw [← Nat.zero_add index] at same
        exact congrArg some same
  have returnType : sources.schema.returnType = schema.returnType := by
    change sources.returnType = schema.returnType
    rw [Sources.returnType, stored]
    rfl
  calc
    sources.schema = ⟨sources.schema.params, sources.schema.returnType⟩ := rfl
    _ = ⟨schema.params, schema.returnType⟩ := by rw [params, returnType]
    _ = schema := rfl

end Sources

theorem ofProblem_of_stored
    (problem other : Problem) {json : Json}
    (stored : Stored.ofJson? (some json) = (ofProblem problem).toStored) :
    ofProblem { other with parameterSchema? := some json } = ofProblem problem :=
  schema_of_stored stored (params_ofProblem_ne_nil problem) (hasIdentifiers_ofProblem problem)

/-- The schema of a problem, stored with any problem as an object or as a text that holds this
object, is the schema of that problem. -/
theorem stored_schema_is_kept
    (problem other : Problem) :
    let object := (ofProblem problem).toJson
    ofProblem { other with parameterSchema? := some object } = ofProblem problem ∧
      ofProblem { other with parameterSchema? := some (.string (Json.compact object)) } =
        ofProblem problem ∧
      ∀ text, Json.parse text = .ok object →
        ofProblem { other with parameterSchema? := some (.string text) } = ofProblem problem := by
  intro object
  have asObject : Stored.ofJson? (some object) = (ofProblem problem).toStored :=
    ofObject_toJson (ofProblem problem)
  have asText :
      ∀ text, Json.parse text = .ok object →
        ofProblem { other with parameterSchema? := some (.string text) } = ofProblem problem :=
    fun text parsed => ofProblem_of_stored problem other (ofJson?_text parsed)
  refine ⟨ofProblem_of_stored problem other asObject, ?_, asText⟩
  exact asText _ (parse_compact_toJson (ofProblem problem))

/-- The schema of a problem with a prototype, stored as a text over several lines with a problem
whose own prototype, test case and topic say something else. -/
theorem stored_schema_is_kept_over_lines :
    let problem : Problem :=
      { Problem.titled "Two Sum" with
        signatures := [(.java, "int[] twoSum(int[] nums, int target)")]
        testCases := [⟨"[1,2]\n3", "[0,1]", false⟩] }
    let other : Problem :=
      { Problem.titled "Rotate List" with
        topic := .linkedList
        signatures := [(.python, "def rotate(self, head):")]
        testCases := [⟨"[1,2,3]", "[3,1,2]", false⟩] }
    let object := (ofProblem problem).toJson
    let text := Json.spaced ['\n', ' '] object
    Json.parse text = .ok object ∧
      ofProblem { other with parameterSchema? := some (.string text) } = ofProblem problem ∧
      ofProblem problem = ⟨[⟨"nums", .intArray⟩, ⟨"target", .int⟩], .intArray⟩ := by
  intro problem other object text
  have parsed : Json.parse text = .ok object :=
    parse_spaced_toJson (by simp [Json.isSpace]) (ofProblem problem)
  exact ⟨parsed, (stored_schema_is_kept problem other).2.2 text parsed, by decide +kernel⟩

end Schema

end Kata
