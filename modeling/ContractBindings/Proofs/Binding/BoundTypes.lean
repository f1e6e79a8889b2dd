import ContractBindings.Proofs.Binding.Documents
import ContractBindings.Proofs.Binding.Members
import ContractBindings.Proofs.Struct.Records

/-!
# The types of a model

Types are written three times: those of arguments while the structs are still being created, those
of struct fields while a tuple around them is being mapped, and those in declarations when all is
done. `StructRegistry.goType?` writes a type from the structs that a model has in the end. The
other three agree with it (`coherent_of_bind`), so that every name in a model is that of a struct
of the model, whose fields are those of the tuples that it stands for.

The names in use before the end are the final ones because those of `namedClassification` are,
which the classification of an ABI was shown to equal.
-/

namespace ContractBindings

open StructRegistry (ofTraversal)

/-! ### Types from the final structs -/

/-- The **Go type** of a type, from the structs of a registry. -/
def StructRegistry.goType? (registry : StructRegistry) : AbiType → Option String
  | .elementary kind => some (Language.golang.elementaryName kind)
  | .array element size =>
    (registry.goType? element).map fun bound => "[" ++ toString size ++ "]" ++ bound
  | .slice element => (registry.goType? element).map fun bound => "[]" ++ bound
  | .tuple fields => (registry.get? (tupleSignature fields)).map (·.name)

/-- The Go type of an argument, from the structs of a registry: that of its type, unless only the
hash of the value is in the log. -/
def StructRegistry.goArgumentType? (registry : StructRegistry) (argument : BoundArgument) :
    Option String :=
  if argument.indexed ∧ argument.type.isHashedTopic then some Language.golang.hashType
  else registry.goType? argument.type

/-- **Text of an argument** in a declaration: its bound type if the innermost type is a tuple, and
its canonical signature otherwise, with nothing behind it or a blank. -/
def BoundArgument.HasText (argument : BoundArgument) (text : String) : Prop :=
  ∃ rest, text =
      (if argument.type.innermost.isTuple then argument.boundType else argument.type.signature) ++
        rest ∧
    (rest = "" ∨ ∃ tail, rest = " " ++ tail)

/-- A type with the signature of a tuple is a tuple. -/
theorem AbiType.isTuple_of_signature_eq {type : AbiType} {fields : TupleFields}
    (h : type.signature = tupleSignature fields) : type.isTuple = true := by
  have hshape : type.shape = (AbiType.tuple fields).shape := AbiType.signature_eq_iff.mp h
  cases type with
  | tuple _ => rfl
  | elementary _ | array _ _ | slice _ => cases hshape

/-- A type with a tuple inside its arrays and slices is none of those that are hashed. -/
theorem AbiType.isHashedTopic_of_isTuple {type : AbiType} (h : type.innermost.isTuple = true) :
    type.isHashedTopic = false := by
  cases type with
  | elementary kind => cases h
  | array _ _ | slice _ | tuple _ => rfl

theorem AbiType.ofList_layers_array (element : AbiType) (size : Nat) :
    String.ofList (array element size).layers =
      "[" ++ toString size ++ "]" ++ .ofList element.layers := by
  refine String.toList_inj.mp ?_
  simp [layers, Nat.toString_eq_repr]

theorem AbiType.ofList_layers_slice (element : AbiType) :
    String.ofList (slice element).layers = "[]" ++ .ofList element.layers := by
  refine String.toList_inj.mp ?_
  simp [layers]

/-- The Go type of a type with a tuple inside its arrays and slices: their brackets, the outermost
first, and the name of the struct. -/
theorem StructRegistry.goType?_of_isTuple (registry : StructRegistry) {type : AbiType}
    (h : type.innermost.isTuple = true) :
    registry.goType? type =
      (registry.get? type.innermost.signature).map fun struct =>
        .ofList type.layers ++ struct.name := by
  induction type using AbiType.induct with
  | elementary kind => cases h
  | array element size ih =>
    simp only [goType?, ih h, Option.map_map, AbiType.innermost, AbiType.ofList_layers_array,
      String.append_assoc]
    rfl
  | slice element ih =>
    simp only [goType?, ih h, Option.map_map, AbiType.innermost, AbiType.ofList_layers_slice,
      String.append_assoc]
    rfl
  | tuple fields ih =>
    simp [goType?, AbiType.innermost, AbiType.layers, tupleSignature]

/-- A declaration writes a type with a tuple inside its arrays and slices as the Go type. -/
theorem declaredType_of_isTuple {registry : StructRegistry} {type : AbiType} {bound : String}
    (h : type.innermost.isTuple = true) (hbound : registry.goType? type = some bound) :
    declaredType registry type = bound := by
  rw [registry.goType?_of_isTuple h] at hbound
  obtain ⟨struct, hfound, rfl⟩ := Option.map_eq_some_iff.mp hbound
  rw [declaredType, hfound]

/-- A declaration writes any other type as its canonical signature, which is that of no struct. -/
theorem declaredType_of_not_isTuple {language : Language} {overrides : TextMap String}
    {tuples : List TupleFields} {type : AbiType} (h : type.innermost.isTuple = false) :
    declaredType (ofTraversal language overrides tuples) type = type.signature := by
  have habsent : type.innermost.signature ∉ tuples.map tupleSignature := fun hmem => by
    obtain ⟨fields, -, hsignature⟩ := List.mem_map.mp hmem
    rw [AbiType.isTuple_of_signature_eq hsignature.symm] at h
    cases h
  have hnone : ((ofTraversal language overrides tuples).get? type.innermost.signature).map
      (·.name) = _ := StructRegistry.get?_ofTraversal _
  rw [if_neg habsent, Option.map_eq_none_iff] at hnone
  rw [declaredType, hnone]

/-! ### Arguments for given display names -/

section Arguments

variable {language : Language} {names : String → String} {parameter : AbiParameter}
  {argument : BoundArgument}

/-- **Argument for a parameter**, where `names` gives the display names. -/
structure BoundFor (language : Language) (names : String → String) (parameter : AbiParameter)
    (argument : BoundArgument) : Prop where
  /-- The argument has the type of the parameter. -/
  type : argument.type = parameter.type
  /-- The bound type is that of the type, unless only the hash of the value is in the log. -/
  boundType : argument.boundType =
    if argument.indexed ∧ argument.type.isHashedTopic then language.hashType
    else language.boundText names argument.type

theorem forall₂_namedInputs (parameters : List AbiParameter) :
    List.Forall₂ (BoundFor language names) parameters (namedInputs language names parameters) := by
  rw [namedInputs]
  exact forall₂_mapIdx fun _ _ _ => ⟨rfl, rfl⟩

theorem forall₂_namedOutputs (parameters : List AbiParameter) :
    List.Forall₂ (BoundFor language names) parameters
      (parameters.map (namedOutput language names)) := by
  rw [List.forall₂_map_right_iff, List.forall₂_same]
  exact fun _ _ => ⟨rfl, rfl⟩

/-- A tuple in the type of a parameter is in that of the argument for it. -/
theorem exists_argument_of_mem_parameterTuples {parameters : List AbiParameter}
    {arguments : List BoundArgument} {fields : TupleFields}
    (h : List.Forall₂ (BoundFor language names) parameters arguments)
    (hfields : fields ∈ parameterTuples parameters) :
    ∃ argument ∈ arguments, fields ∈ argument.type.tuples := by
  obtain ⟨parameter, hparameter, hinside⟩ := List.mem_flatMap.mp hfields
  obtain ⟨argument, hargument, hbound⟩ := exists_mem_of_forall₂ h.flip hparameter
  exact ⟨argument, hargument, hbound.type.symm ▸ hinside⟩

end Arguments

/-! ### The structs of a traversal -/

section Traversal

variable {overrides : TextMap String} {tuples : List TupleFields} {parameter : AbiParameter}
  {argument : BoundArgument} {parameters : List AbiParameter} {arguments : List BoundArgument}

/-- The Go type of a type whose tuples are in the traversal is its bound type. -/
theorem StructRegistry.goType?_ofTraversal {type : AbiType} (h : type.tuples ⊆ tuples) :
    (ofTraversal .golang overrides tuples).goType? type =
      some (Language.golang.boundText (displayName .golang overrides tuples) type) := by
  induction type using AbiType.induct with
  | elementary kind => rfl
  | array element size ih =>
    rw [goType?, ih h]
    rfl
  | slice element ih =>
    rw [goType?, ih h]
    rfl
  | tuple fields ih =>
    have hself : fields ∈ tuples := h (AbiType.self_mem_tuples fields)
    rw [goType?, get?_ofTraversal, if_pos (List.mem_map_of_mem hself)]
    rfl

theorem goArgumentType?_of_boundFor
    (h : BoundFor .golang (displayName .golang overrides tuples) parameter argument)
    (htuples : parameter.type.tuples ⊆ tuples) :
    (ofTraversal .golang overrides tuples).goArgumentType? argument =
      some argument.boundType := by
  rw [StructRegistry.goArgumentType?, h.boundType, h.type,
    StructRegistry.goType?_ofTraversal htuples]
  split <;> rfl

theorem declaredType_of_boundFor
    (h : BoundFor .golang (displayName .golang overrides tuples) parameter argument)
    (htuples : parameter.type.tuples ⊆ tuples) :
    declaredType (ofTraversal .golang overrides tuples) parameter.type =
      if argument.type.innermost.isTuple then argument.boundType
      else argument.type.signature := by
  rw [h.type]
  cases htuple : parameter.type.innermost.isTuple with
  | true =>
    have hhashed := AbiType.isHashedTopic_of_isTuple htuple
    rw [declaredType_of_isTuple htuple (StructRegistry.goType?_ofTraversal htuples), if_pos rfl,
      h.boundType, h.type, if_neg (by simp [hhashed])]
  | false => rw [declaredType_of_not_isTuple htuple, if_neg Bool.false_ne_true]

/-- A parameter is declared with the text of its argument. -/
theorem hasText_declaredParameter
    (h : BoundFor .golang (displayName .golang overrides tuples) parameter argument)
    (htuples : parameter.type.tuples ⊆ tuples) (indexed : Bool) :
    argument.HasText
      (declaredParameter (ofTraversal .golang overrides tuples) indexed parameter) := by
  refine ⟨(if indexed then " indexed" else "") ++
    if parameter.name.isEmpty then "" else " " ++ parameter.name, ?_, ?_⟩
  · rw [declaredParameter, declaredType_of_boundFor h htuples, String.append_assoc]
  · cases indexed with
    | true =>
      refine .inr ⟨"indexed" ++ if parameter.name.isEmpty then "" else " " ++ parameter.name, ?_⟩
      rw [if_pos rfl, ← String.append_assoc]
      rfl
    | false =>
      rw [if_neg Bool.false_ne_true, String.empty_append]
      split
      · exact .inl rfl
      · exact .inr ⟨parameter.name, rfl⟩

/-- **Declared parameters**: the arguments have the types of the parameters, and there is a text for
each of them. -/
structure AreDeclaredAs (parameters : List AbiParameter) (arguments : List BoundArgument)
    (texts : List String) : Prop where
  /-- The types are those of the parameters. -/
  types : arguments.map (·.type) = parameters.map (·.type)
  /-- The texts are those of the arguments. -/
  texts : List.Forall₂ BoundArgument.HasText arguments texts

/-- The arguments for some parameters have their Go types, and are declared with their texts. -/
theorem coherent_of_forall₂_boundFor
    (h : List.Forall₂ (BoundFor .golang (displayName .golang overrides tuples)) parameters
      arguments) (htuples : parameterTuples parameters ⊆ tuples) :
    (∀ argument ∈ arguments, argument.type.tuples ⊆ tuples ∧
      (ofTraversal .golang overrides tuples).goArgumentType? argument =
        some argument.boundType) ∧
    ∀ indexed : AbiParameter → Bool, AreDeclaredAs parameters arguments
      (parameters.map fun parameter => declaredParameter (ofTraversal .golang overrides tuples)
        (indexed parameter) parameter) := by
  induction h with
  | nil => exact ⟨fun _ hmem => absurd hmem List.not_mem_nil, fun _ => ⟨rfl, .nil⟩⟩
  | cons hhead _ ih =>
    rw [parameterTuples, List.flatMap_cons, List.append_subset] at htuples
    obtain ⟨hfirst, hrest⟩ := htuples
    obtain ⟨hbound, hdeclared⟩ := ih hrest
    constructor
    · have htype := hhead.type.symm ▸ hfirst
      exact List.forall_mem_cons.mpr ⟨⟨htype, goArgumentType?_of_boundFor hhead hfirst⟩, hbound⟩
    · intro indexed
      obtain ⟨htypes, htexts⟩ := hdeclared indexed
      exact ⟨by rw [List.map_cons, List.map_cons, hhead.type, htypes],
        .cons (hasText_declaredParameter hhead hfirst _) htexts⟩

/-- A struct is the record of a tuple of the traversal, and its fields have their Go types. -/
theorem exists_record_of_mem_structs (hclosed : ClosedTuples tuples) {struct : StructDescriptor}
    (hstruct : struct ∈ (ofTraversal .golang overrides tuples).structs) :
    (∃ fields ∈ tuples, struct.IsRecordOf .golang fields) ∧
      ∀ field ∈ struct.fields, field.abiType.tuples ⊆ tuples ∧
        (ofTraversal .golang overrides tuples).goType? field.abiType = some field.boundType := by
  obtain ⟨fields, hfirst, hrecord, htypes⟩ :=
    exists_mem_of_forall₂ StructRegistry.forall₂_records_ofTraversal hstruct
  have hfields := firstTuples_subset tuples hfirst
  refine ⟨⟨fields, hfields, hrecord⟩, fun field hfield => ?_⟩
  obtain ⟨source, hsource, htype, hbound⟩ := exists_mem_of_forall₂ htypes hfield
  have htuples : source.2.tuples ⊆ tuples := fun inner hinner =>
    hclosed _ hfields inner (tuples_subset_fieldTuples hsource hinner)
  rw [htype, hbound]
  exact ⟨htuples, StructRegistry.goType?_ofTraversal htuples⟩

/-- A tuple of the traversal has a struct, with fields of the same shapes. -/
theorem exists_struct_of_mem {language : Language} {fields : TupleFields} (h : fields ∈ tuples) :
    ∃ struct, (ofTraversal language overrides tuples).get? (tupleSignature fields) = some struct ∧
      struct.fields.map (·.abiType.shape) = fields.map (·.2.shape) := by
  have hname : ((ofTraversal language overrides tuples).get? (tupleSignature fields)).map
      (·.name) = _ := StructRegistry.get?_ofTraversal _
  rw [if_pos (List.mem_map_of_mem h)] at hname
  obtain ⟨struct, hfound, -⟩ := Option.map_eq_some_iff.mp hname
  refine ⟨struct, hfound, ?_⟩
  -- the struct is the record of the first tuple of this signature
  obtain ⟨hmem, hsignature⟩ :=
    (StructRegistry.get?_eq_some_iff StructRegistry.nodup_signatures_ofTraversal).mp hfound
  obtain ⟨first, -, hrecord, -⟩ :=
    exists_mem_of_forall₂ StructRegistry.forall₂_records_ofTraversal hmem
  rw [hrecord.signature] at hsignature
  have hshapes := congrArg (List.map AbiType.shape) hrecord.types
  rw [List.map_map, List.map_map] at hshapes
  exact hshapes.trans (map_shape_of_tupleSignature_eq hsignature)

end Traversal

/-! ### Models -/

/-- The types of all arguments and struct fields of a model. -/
def ContractModel.types (model : ContractModel) : List AbiType :=
  model.classification.arguments.map (·.type) ++
    model.structs.structs.flatMap fun struct => struct.fields.map (·.abiType)

/-- **Coherent** model: all types in it are written with the names of its structs. -/
structure ContractModel.Coherent (model : ContractModel) : Prop where
  /-- The arguments have their Go types. -/
  arguments : ∀ argument ∈ model.classification.arguments,
    model.structs.goArgumentType? argument = some argument.boundType
  /-- Every struct is the record of a tuple inside the type of an argument. -/
  records : ∀ struct ∈ model.structs.structs, ∃ argument ∈ model.classification.arguments,
    ∃ fields ∈ argument.type.tuples, struct.IsRecordOf model.language fields
  /-- The fields of the structs have their Go types. -/
  fields : ∀ struct ∈ model.structs.structs, ∀ field ∈ struct.fields,
    model.structs.goType? field.abiType = some field.boundType
  /-- Every tuple inside a type has a struct, with fields of the same shapes. -/
  tuples : ∀ type ∈ model.types, ∀ fields ∈ type.tuples,
    ∃ struct, model.structFor? (tupleSignature fields) = some struct ∧
      struct.fields.map (·.abiType.shape) = fields.map (·.2.shape)
  /-- Methods are declared with the texts of their arguments. -/
  methods : ∀ method ∈ model.classification.methods, ∃ inputs outputs,
    AreDeclaredAs method.function.inputs method.inputs inputs ∧
    AreDeclaredAs method.function.outputs method.outputs outputs ∧
    method.declaration =
      "function " ++ method.function.name ++ "(" ++ ", ".intercalate inputs ++ ") " ++
        (if method.function.isConstant then "constant " else "") ++
        "returns(" ++ ", ".intercalate outputs ++ ")"
  /-- So are events. -/
  events : ∀ entry ∈ model.classification.events.entries, ∃ inputs,
    AreDeclaredAs entry.2.event.inputs entry.2.inputs inputs ∧
    entry.2.declaration =
      "event " ++ entry.2.event.name ++ "(" ++ ", ".intercalate inputs ++ ")"
  /-- So is the constructor. -/
  constructor : ∀ method ∈ model.classification.constructor, ∃ inputs,
    AreDeclaredAs method.function.inputs method.inputs inputs ∧
    method.declaration = "constructor(" ++ ", ".intercalate inputs ++ ")"
  /-- All this is shown in the document of the model. -/
  document : model.IsShownIn model.toJson

section Named

variable {overrides : TextMap String} {tuples : List TupleFields} {customs : Customs}
  {abi : ContractAbi}

/-- A method for a function whose tuples are in the traversal is coherent with its structs. -/
theorem coherent_namedMethod {f : AbiFunction} (key : String) (h : f.tuples ⊆ tuples) :
    let method := namedMethod .golang (displayName .golang overrides tuples) key f
    (∀ argument ∈ method.arguments, argument.type.tuples ⊆ tuples ∧
      (ofTraversal .golang overrides tuples).goArgumentType? argument =
        some argument.boundType) ∧
    AreDeclaredAs f.inputs method.inputs
      (f.inputs.map (declaredParameter (ofTraversal .golang overrides tuples) false)) ∧
    AreDeclaredAs f.outputs method.outputs
      (f.outputs.map (declaredParameter (ofTraversal .golang overrides tuples) false)) := by
  obtain ⟨hinputs, houtputs⟩ := List.append_subset.mp h
  obtain ⟨hinputTypes, hinputTexts⟩ :=
    coherent_of_forall₂_boundFor (forall₂_namedInputs f.inputs) hinputs
  obtain ⟨houtputTypes, houtputTexts⟩ :=
    coherent_of_forall₂_boundFor (forall₂_namedOutputs f.outputs) houtputs
  refine ⟨fun argument hmem => ?_, hinputTexts fun _ => false, houtputTexts fun _ => false⟩
  exact (List.mem_append.mp hmem).elim (hinputTypes argument) (houtputTypes argument)

/-- A tuple of a function is in the type of an argument of the method for it. -/
theorem exists_argument_of_mem_tuples (language : Language) (names : String → String)
    (key : String) {f : AbiFunction} {fields : TupleFields} (h : fields ∈ f.tuples) :
    ∃ argument ∈ (namedMethod language names key f).arguments, fields ∈ argument.type.tuples := by
  rcases List.mem_append.mp h with hinput | houtput
  · obtain ⟨argument, hargument, hinside⟩ :=
      exists_argument_of_mem_parameterTuples (forall₂_namedInputs f.inputs) hinput
    exact ⟨argument, List.mem_append_left _ hargument, hinside⟩
  · obtain ⟨argument, hargument, hinside⟩ :=
      exists_argument_of_mem_parameterTuples (forall₂_namedOutputs f.outputs) houtput
    exact ⟨argument, List.mem_append_right _ hargument, hinside⟩

/-- Every tuple of the traversal is in the type of an argument. -/
theorem exists_argument_of_mem_traversal (language : Language) (names : String → String)
    {fields : TupleFields} (h : fields ∈ abi.traversal customs) :
    ∃ argument ∈ (namedClassification language names customs abi).arguments,
      fields ∈ argument.type.tuples := by
  rcases List.mem_append.mp h with hfunctions | hothers
  · rw [← flatMap_withKeys language AbiFunction.name] at hfunctions
    obtain ⟨keyed, hkeyed, hinside⟩ := List.mem_flatMap.mp hfunctions
    obtain ⟨argument, hargument, hfields⟩ :=
      exists_argument_of_mem_tuples language names keyed.1 hinside
    have hmethod : namedMethod language names keyed.1 keyed.2 ∈
        (namedClassification language names customs abi).methods :=
      mem_methods_iff.mpr ⟨keyed, hkeyed, rfl⟩
    exact ⟨argument, Classification.mem_arguments_iff.mpr (.inl ⟨_, hmethod, hargument⟩), hfields⟩
  rcases List.mem_append.mp hothers with hevents | hconstructor
  · rw [← flatMap_withKeys language AbiEvent.name] at hevents
    obtain ⟨keyed, hkeyed, hinside⟩ := List.mem_flatMap.mp hevents
    have hbound : List.Forall₂ (BoundFor language names) keyed.2.inputs
        (namedEvent language names keyed.1 keyed.2).inputs := forall₂_namedInputs _
    obtain ⟨argument, hargument, hfields⟩ := exists_argument_of_mem_parameterTuples hbound hinside
    have hevent : (keyed.1, namedEvent language names keyed.1 keyed.2) ∈
        (namedClassification language names customs abi).events.entries :=
      mem_events_iff.mpr ⟨keyed, hkeyed, rfl⟩
    exact ⟨argument, Classification.mem_arguments_iff.mpr (.inr (.inl ⟨_, hevent, hargument⟩)),
      hfields⟩
  · obtain ⟨f, hf, hinside⟩ := List.mem_flatMap.mp hconstructor
    obtain ⟨argument, hargument, hfields⟩ := exists_argument_of_mem_tuples language names "" hinside
    have hmethod : namedMethod language names "" f ∈
        (namedClassification language names customs abi).constructor :=
      Option.mem_map_of_mem _ (Option.mem_toList.mp hf)
    exact ⟨argument, Classification.mem_arguments_iff.mpr (.inr (.inr ⟨_, hmethod, hargument⟩)),
      hfields⟩

/-- The arguments of a classification for the names of its traversal have their Go types. -/
theorem goArgumentType?_of_mem_arguments {argument : BoundArgument}
    (h : argument ∈ (namedClassification .golang
      (displayName .golang overrides (abi.traversal customs)) customs abi).arguments) :
    argument.type.tuples ⊆ abi.traversal customs ∧
      (ofTraversal .golang overrides (abi.traversal customs)).goArgumentType? argument =
        some argument.boundType := by
  rcases Classification.mem_arguments_iff.mp h with ⟨_, hmethod, hargument⟩ |
    ⟨_, hevent, hargument⟩ | ⟨_, hmethod, hargument⟩
  · obtain ⟨f, key, htuples, rfl⟩ := exists_of_mem_methods hmethod
    exact (coherent_namedMethod key htuples).1 argument hargument
  · obtain ⟨e, htuples, heq⟩ := exists_of_mem_events hevent
    rw [heq] at hargument
    exact (coherent_of_forall₂_boundFor (forall₂_namedInputs e.inputs) htuples).1 argument
      hargument
  · obtain ⟨f, htuples, rfl⟩ := exists_of_mem_constructor hmethod
    exact (coherent_namedMethod "" htuples).1 argument hargument

end Named

section Model

variable {binder : Binder} {name : String} {deployment : Deployment} {model : ContractModel}

/-- **Models for Go are coherent**: the names that were in use while structs were still being
created are those that the model has in the end. -/
theorem coherent_of_bind (h : binder.bind name deployment = .ok model)
    (hlanguage : model.language = .golang) : model.Coherent := by
  obtain ⟨abi, customs, hclosed, hstructs, hresult⟩ := exists_traversal_of_bind h
  rw [hlanguage] at hstructs hresult
  have harguments : ∀ argument ∈ model.classification.arguments,
      argument.type.tuples ⊆ abi.traversal customs ∧
        model.structs.goArgumentType? argument = some argument.boundType := by
    rw [hresult, Classification.arguments_declared, hstructs]
    exact fun _ => goArgumentType?_of_mem_arguments
  have hrecords : ∀ struct ∈ model.structs.structs,
      (∃ fields ∈ abi.traversal customs, struct.IsRecordOf .golang fields) ∧
        ∀ field ∈ struct.fields, field.abiType.tuples ⊆ abi.traversal customs ∧
          model.structs.goType? field.abiType = some field.boundType := by
    rw [hstructs]
    exact fun _ => exists_record_of_mem_structs hclosed
  have hfound : ∀ {tuples : List TupleFields}, tuples ⊆ abi.traversal customs →
      ∀ fields ∈ tuples, ∃ struct, model.structFor? (tupleSignature fields) = some struct ∧
        struct.fields.map (·.abiType.shape) = fields.map (·.2.shape) := by
    intro tuples htuples fields hfields
    rw [ContractModel.structFor?, hstructs]
    exact exists_struct_of_mem (htuples hfields)
  exact {
    arguments := fun argument hmem => (harguments argument hmem).2
    records := by
      intro struct hstruct
      obtain ⟨⟨fields, hfields, hrecord⟩, -⟩ := hrecords struct hstruct
      rw [hlanguage, hresult, Classification.arguments_declared]
      obtain ⟨argument, hargument, hinside⟩ := exists_argument_of_mem_traversal _ _ hfields
      exact ⟨argument, hargument, fields, hinside, hrecord⟩
    fields := fun struct hmem field hfield => ((hrecords struct hmem).2 field hfield).2
    tuples := by
      intro type htype
      rcases List.mem_append.mp htype with hargument | hinside
      · obtain ⟨argument, hmem, rfl⟩ := List.mem_map.mp hargument
        exact hfound (harguments argument hmem).1
      · obtain ⟨struct, hmem, hinside⟩ := List.mem_flatMap.mp hinside
        obtain ⟨field, hfield, rfl⟩ := List.mem_map.mp hinside
        exact hfound ((hrecords struct hmem).2 field hfield).1
    methods := by
      rw [hresult, Classification.methods_declared, hstructs]
      intro declared hdeclared
      obtain ⟨method, hmethod, rfl⟩ := List.mem_map.mp hdeclared
      obtain ⟨f, key, htuples, rfl⟩ := exists_of_mem_methods hmethod
      obtain ⟨-, hinputs, houtputs⟩ := coherent_namedMethod key htuples
      exact ⟨_, _, hinputs, houtputs, rfl⟩
    events := by
      rw [hresult, hstructs]
      intro declared hdeclared
      obtain ⟨entry, hentry, rfl⟩ := List.mem_map.mp hdeclared
      obtain ⟨e, htuples, heq⟩ := exists_of_mem_events hentry
      rw [heq]
      exact ⟨_, (coherent_of_forall₂_boundFor (forall₂_namedInputs e.inputs) htuples).2
        AbiParameter.indexed, rfl⟩
    constructor := by
      rw [hresult, hstructs]
      intro declared hdeclared
      obtain ⟨method, hmethod, rfl⟩ := Option.map_eq_some_iff.mp (Option.mem_def.mp hdeclared)
      obtain ⟨f, htuples, rfl⟩ := exists_of_mem_constructor hmethod
      exact ⟨_, (coherent_namedMethod "" htuples).2.1, rfl⟩
    document := model.isShownIn_toJson }

end Model

/-- A parameter of a tuple with components of the given types, or of arrays of it. -/
private def tupleParameter (name suffix : String) (components : List Json) : Json :=
  .object [("name", .string name), ("type", .string ("tuple" ++ suffix)),
    ("components", .array components)]

/-- A pair of an address and a number, or an array of pairs. -/
private def pairParameter (name suffix : String) : Json :=
  tupleParameter name suffix
    [.object [("type", .string "address")], .object [("type", .string "uint8")]]

/-- Arrays of tuples, a tuple inside a tuple, and an event with a hashed text. -/
def nestedTuples : Deployment :=
  .ofAbi (.array [
    .object [("type", .string "constructor"), ("inputs", .array [pairParameter "first" ""])],
    .object [("type", .string "function"), ("name", .string "register"),
      ("inputs", .array [pairParameter "pairs" "[2][]"]),
      ("outputs", .array [tupleParameter "" "[]" [pairParameter "pair" ""]])],
    .object [("type", .string "event"), ("name", .string "Renamed"),
      ("inputs", .array [
        .object [("name", .string "label"), ("type", .string "string"), ("indexed", .bool true)],
        pairParameter "" "[]"])]])

/-- The binder for Go that has a name for the struct of such a pair. -/
def pairBinder : Binder :=
  ⟨⟨.golang, .ethereum, .ofList [("default",
    ⟨.ofList [("(address,uint8)", "Pair")], .empty, .empty⟩)]⟩, by decide +kernel⟩

theorem coherent_of_bind_nestedTuples :
    ∃ model, pairBinder.bind "C" nestedTuples = .ok model ∧ model.language = .golang ∧
      model.structs.structs.map (fun struct => (struct.name,
        struct.fields.map fun field => (field.name, field.abiType.signature, field.boundType))) =
        [("Pair", [("Field0", "address", "common.Address"), ("Field1", "uint8", "uint8")]),
          ("Struct1", [("Pair", "(address,uint8)", "Pair")])] ∧
      model.classification.arguments.map (·.boundType) =
        ["[][2]Pair", "[]Struct1", "common.Hash", "[]Pair", "Pair"] ∧
      model.classification.declarations =
        ["function register([][2]Pair pairs) returns([]Struct1)",
          "event Renamed(string indexed label, []Pair)", "constructor(Pair first)"] ∧
      model.Coherent := by
  have hstructs : (pairBinder.bind "C" nestedTuples).toOption.map (fun model =>
      model.structs.structs.map fun struct => (struct.name,
        struct.fields.map fun field => (field.name, field.abiType.signature, field.boundType))) =
      some [("Pair", [("Field0", "address", "common.Address"), ("Field1", "uint8", "uint8")]),
        ("Struct1", [("Pair", "(address,uint8)", "Pair")])] := by decide +kernel
  have hbound : (pairBinder.bind "C" nestedTuples).toOption.map (fun model =>
      (model.language, model.classification.arguments.map (·.boundType),
        model.classification.declarations)) =
      some (.golang, ["[][2]Pair", "[]Struct1", "common.Hash", "[]Pair", "Pair"],
        ["function register([][2]Pair pairs) returns([]Struct1)",
          "event Renamed(string indexed label, []Pair)", "constructor(Pair first)"]) := by
    decide +kernel
  obtain ⟨model, hmodel, hfacts⟩ := Option.map_eq_some_iff.mp hbound
  obtain ⟨hlanguage, htypes, hdeclarations⟩ := by simpa only [Prod.mk.injEq] using hfacts
  rw [hmodel, Option.map_some, Option.some.injEq] at hstructs
  have h := except_toOption_eq_some_iff.mp hmodel
  exact ⟨model, h, hlanguage, hstructs, htypes, hdeclarations, coherent_of_bind h hlanguage⟩

end ContractBindings
