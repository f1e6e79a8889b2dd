import ContractBindings.Proofs.Naming.Fields
import ContractBindings.Proofs.Struct.Invariant

/-!
# Structs as records of tuples

A struct is the **record** of a tuple (`StructDescriptor.IsRecordOf`) if it has the tuple's signature
and one field for each component, in the same order, with the component's type and a name that is
rightful behind the names before it.

Whatever is requested of a registry, the structs that are new are records of tuples inside the type
that was asked for, and a tuple that gets a struct of its own gets its record
(`isRecordOf_of_resolveStruct`). The tuples inside it may be registered in the meantime, which does
not touch the names of its fields.
-/

namespace ContractBindings

/-! ### Fields of structs -/

section Fields

variable (language : Language) {fields : TupleFields} {boundTypes : List String}

theorem map_name_structFields (h : boundTypes.length = fields.length) :
    (structFields language fields boundTypes).map (·.name) =
      language.fieldNames (fields.map (·.1)) := by
  have hlength : (language.fieldNames (fields.map (·.1))).length ≤
      (boundTypes.zip (fields.map (·.2))).length := by
    simp [h]
  rw [structFields, List.map_map]
  conv_rhs => rw [← List.map_fst_zip hlength]
  rfl

theorem map_abiType_structFields {P : String × AbiType → String → Prop}
    (h : List.Forall₂ P fields boundTypes) :
    (structFields language fields boundTypes).map (·.abiType) = fields.map (·.2) := by
  have htypes := (forall₂_structFields language h).imp fun _ _ hfield => hfield.1.symm
  exact (map_eq_map_iff.mpr htypes).symm

end Fields

/-! ### Records -/

/-- **Record** of a tuple: there is one field for each component. -/
structure StructDescriptor.IsRecordOf (language : Language) (fields : TupleFields)
    (struct : StructDescriptor) : Prop where
  /-- The signature is that of the tuple. -/
  signature : struct.signature = tupleSignature fields
  /-- The types are those of the components, in their order. -/
  types : struct.fields.map (·.abiType) = fields.map (·.2)
  /-- The names are those for the components. -/
  names : language.NamesFields (fields.map (·.1)) (struct.fields.map (·.name))

/-- The fields that a struct is made of make it a record. -/
theorem isRecordOf_structFields (language : Language) {fields : TupleFields}
    {P : String × AbiType → String → Prop}
    {boundTypes : List String} (h : List.Forall₂ P fields boundTypes) (name : String) :
    StructDescriptor.IsRecordOf language fields
      ⟨name, tupleSignature fields, structFields language fields boundTypes⟩ where
  signature := rfl
  types := map_abiType_structFields language h
  names := by
    rw [map_name_structFields language h.length_eq.symm]
    exact language.namesFields_fieldNames _

/-- The structs of a traversal are the records of the first tuples, and their fields have the bound
types that the display names at the end give. -/
theorem StructRegistry.forall₂_records_ofTraversal {language : Language}
    {overrides : TextMap String} {tuples : List TupleFields} :
    List.Forall₂ (fun fields struct => struct.IsRecordOf language fields ∧
        List.Forall₂ (fun source field => field.abiType = source.2 ∧ field.boundType =
          language.boundText (displayName language overrides tuples) source.2) fields struct.fields)
      (firstTuples tuples) (ofTraversal language overrides tuples).structs := by
  rw [structs_ofTraversal]
  refine forall₂_mapIdx fun place fields _ => ?_
  have htypes : List.Forall₂ (fun (source : String × AbiType) bound =>
      bound = language.boundText (displayName language overrides tuples) source.2) fields
      (fields.map fun source =>
        language.boundText (displayName language overrides tuples) source.2) := by
    rw [List.forall₂_map_right_iff, List.forall₂_same]
    exact fun _ _ => rfl
  exact ⟨isRecordOf_structFields language htypes _, forall₂_structFields language htypes⟩

/-- Growth adds records behind the structs that there are. -/
theorem StructRegistry.GrowsBy.exists_records {language : Language} {tuples : List TupleFields}
    {before after : StructRegistry} (h : before.GrowsBy language tuples after) :
    ∃ added, after.structs = before.structs ++ added ∧
      ∀ struct ∈ added, ∃ fields ∈ tuples, struct.IsRecordOf language fields := by
  induction h with
  | refl => exact ⟨[], (List.append_nil _).symm, fun _ hstruct => absurd hstruct List.not_mem_nil⟩
  | @tail middle after _ hstep ih =>
    obtain ⟨added, hadded, hrecords⟩ := ih
    obtain ⟨fields, hfields, hadds⟩ := hstep
    obtain ⟨boundTypes, htypes, rfl⟩ := hadds.added
    let name := middle.nextName language.structStem (tupleSignature fields)
    let struct : StructDescriptor :=
      ⟨name, tupleSignature fields, structFields language fields boundTypes⟩
    refine ⟨added ++ [struct], ?_, fun other hother => ?_⟩
    · rw [StructRegistry.structs_add, hadded, List.append_assoc]
    · rcases List.mem_append.mp hother with hold | hlast
      · exact hrecords other hold
      · rw [List.mem_singleton.mp hlast]
        exact ⟨fields, hfields, isRecordOf_structFields language htypes name⟩

/-- **Structs are records**: when the struct for a type is asked for, with or without success, the
structs that are new are records of tuples inside the type. If the type is a tuple without a struct
and is given a name, the struct of this name is its record. -/
theorem isRecordOf_of_resolveStruct {language : Language} {type : AbiType}
    {before after : StructRegistry} {outcome : Except BindError String}
    (h : (resolveStruct language type).outcome before = (outcome, after)) :
    (∃ added, after.structs = before.structs ++ added ∧
      ∀ struct ∈ added, ∃ fields ∈ type.tuples, struct.IsRecordOf language fields) ∧
    ∀ {fields : TupleFields} {name : String}, type = .tuple fields →
      before.get? (tupleSignature fields) = none → outcome = .ok name →
      ∃ struct, after.get? (tupleSignature fields) = some struct ∧ struct.name = name ∧
        struct.IsRecordOf language fields := by
  have hgrowth := (grows_resolveStruct language type).registry before
  rw [h] at hgrowth
  refine ⟨hgrowth.exists_records, ?_⟩
  rintro fields name rfl hnew rfl
  have hfields := grows_allFields language fields
  rw [resolveStruct] at h
  rcases intern_cases before with
    ⟨_, hfound, -⟩ | ⟨-, ⟨_, _, -, hrun⟩ | ⟨boundTypes, middle, hall, hrun⟩⟩
  · rw [hnew] at hfound
    cases hfound
  · cases (Prod.mk.inj (hrun.symm.trans h)).1
  · obtain ⟨hname, rfl⟩ := Prod.mk.inj (hrun.symm.trans h)
    exact ⟨_, StructRegistry.get?_add_self, Except.ok.inj hname,
      isRecordOf_structFields language (hfields.result hall (.refl middle)) _⟩

/-- Components whose names are empty, repeated or those of numbered fields, with such a tuple inside
them. -/
def clashingNames : TupleFields :=
  [("field1", .elementary (.uint 8)),
    ("", .tuple [("", .elementary .bool), ("field0", .elementary .string)]),
    ("__", .elementary .address), ("field_2", .elementary .bytes), ("a_b", .elementary .bool),
    ("aB", .elementary .bool)]

/-- Numbers are passed over where they are taken, by a component or by an earlier number. -/
theorem isRecordOf_of_resolveStruct_clashingNames :
    ∃ after struct, (resolveStruct .golang (.tuple clashingNames)).outcome .empty =
        (.ok "Struct1", after) ∧
      after.get? (tupleSignature clashingNames) = some struct ∧ struct.name = "Struct1" ∧
      struct.fields.map (·.name) = ["Field1", "Field2", "Field3", "Field4", "AB", "Field5"] ∧
      struct.IsRecordOf .golang clashingNames := by
  have hnames : (((resolveStruct .golang (.tuple clashingNames)).outcome .empty).2.get?
      (tupleSignature clashingNames)).map (·.fields.map (·.name)) =
        some ["Field1", "Field2", "Field3", "Field4", "AB", "Field5"] := by
    decide +kernel
  obtain ⟨after, hrun⟩ : ∃ after, (resolveStruct .golang (.tuple clashingNames)).outcome .empty =
      (.ok "Struct1", after) := ⟨_, rfl⟩
  obtain ⟨struct, hfound, hname, hrecord⟩ := (isRecordOf_of_resolveStruct hrun).2 rfl rfl rfl
  rw [hrun, hfound, Option.map_some, Option.some.injEq] at hnames
  exact ⟨after, struct, hrun, hfound, hname, hnames, hrecord⟩

end ContractBindings
