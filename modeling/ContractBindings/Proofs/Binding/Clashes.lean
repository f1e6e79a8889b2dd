import ContractBindings.Proofs.Binding.Faults
import ContractBindings.Proofs.Struct.DisplayNames

/-!
# Clashes of display names

A language with records maps every legal type, so that binding a contract for Go can fail for one
reason only: two structs have the same display name (`Binder.bind_golang_outcome`). One of the two
names is then a custom one, since synthesized names are numbered by place.
-/

namespace ContractBindings

open StructRegistry (ofTraversal)

namespace StructRegistry

/-- Whether a struct has the custom name for its signature. -/
def HasCustomName (registry : StructRegistry) (struct : StructDescriptor) : Prop :=
  registry.overrides.get? struct.signature = some struct.name

/-- Whether a struct without a custom name has that of its place. -/
def HasSynthesizedName (registry : StructRegistry) (language : Language)
    (struct : StructDescriptor) : Prop :=
  registry.overrides.get? struct.signature = none ∧
    ∃ place : Nat, registry.structs[place]? = some struct ∧
      struct.name = language.structStem ++ toString place

section Traversal

variable {language : Language} {overrides : TextMap String} {tuples : List TupleFields}

/-- Every struct of a traversal has a custom or a synthesized name. -/
theorem hasCustomName_or_hasSynthesizedName {struct : StructDescriptor}
    (h : struct ∈ (ofTraversal language overrides tuples).structs) :
    (ofTraversal language overrides tuples).HasCustomName struct ∨
      (ofTraversal language overrides tuples).HasSynthesizedName language struct := by
  obtain ⟨place, hplace⟩ := List.mem_iff_getElem?.mp h
  have hname : struct.name = placedName language overrides place struct.signature := by
    rw [structs_ofTraversal, List.getElem?_mapIdx, Option.map_eq_some_iff] at hplace
    obtain ⟨fields, -, rfl⟩ := hplace
    rfl
  rw [placedName] at hname
  cases hcustom : overrides.get? struct.signature with
  | some custom =>
    rw [hcustom] at hname
    exact .inl (hcustom.trans (congrArg some hname.symm))
  | none =>
    rw [hcustom] at hname
    exact .inr ⟨hcustom, place, hplace, hname⟩

end Traversal

/-- A synthesized name belongs to one struct. -/
theorem HasSynthesizedName.eq {registry : StructRegistry} {language : Language}
    {first second : StructDescriptor} (hfirst : registry.HasSynthesizedName language first)
    (hsecond : registry.HasSynthesizedName language second) (h : first.name = second.name) :
    first = second := by
  obtain ⟨-, place, hplace, hname⟩ := hfirst
  obtain ⟨-, other, hother, hothername⟩ := hsecond
  rw [hname, hothername] at h
  obtain rfl := append_toString_injective _ h
  exact Option.some.inj (hplace.symm.trans hother)

/-- The structs of a clash have different signatures. -/
theorem IsFirstClash.signature_ne {registry : StructRegistry}
    (hdistinct : registry.signatures.Nodup) {first second : StructDescriptor}
    (h : IsFirstClash registry.structs first second) :
    first.signature ≠ second.signature := by
  obtain ⟨before, after, hstructs, -, hfirst, -⟩ := h
  rw [signatures, hstructs, List.map_append, List.nodup_append] at hdistinct
  exact hdistinct.2.2 _ (List.mem_map_of_mem hfirst) _ (List.mem_map_of_mem List.mem_cons_self)

theorem IsFirstClash.mem {structs : List StructDescriptor} {first second : StructDescriptor}
    (h : IsFirstClash structs first second) : first ∈ structs ∧ second ∈ structs := by
  obtain ⟨before, after, rfl, -, hfirst, -⟩ := h
  exact ⟨List.mem_append_left _ hfirst, List.mem_append_right _ List.mem_cons_self⟩

/-- **Origin of a clash**: two custom names, or a custom name that is the synthesized name of
another struct. -/
theorem IsFirstClash.custom {language : Language} {overrides : TextMap String}
    {tuples : List TupleFields} {first second : StructDescriptor}
    (h : IsFirstClash (ofTraversal language overrides tuples).structs first second) :
    let registry := ofTraversal language overrides tuples
    registry.HasCustomName first ∧ registry.HasCustomName second ∨
      registry.HasCustomName first ∧ registry.HasSynthesizedName language second ∨
      registry.HasSynthesizedName language first ∧ registry.HasCustomName second := by
  obtain ⟨-, -, -, -, -, hname⟩ := id h
  rcases hasCustomName_or_hasSynthesizedName h.mem.1 with hfirst | hfirst <;>
    rcases hasCustomName_or_hasSynthesizedName h.mem.2 with hsecond | hsecond
  · exact .inl ⟨hfirst, hsecond⟩
  · exact .inr (.inl ⟨hfirst, hsecond⟩)
  · exact .inr (.inr ⟨hfirst, hsecond⟩)
  · have hne := h.signature_ne nodup_signatures_ofTraversal
    exact absurd (congrArg (·.signature) (hfirst.eq hsecond hname)) hne

/-- The tuples of a traversal have structs: two of other shapes clash if and only if they have the
same name. -/
theorem exists_isFirstClash_iff {language : Language} {overrides : TextMap String}
    {tuples : List TupleFields} :
    (∃ first second, IsFirstClash (ofTraversal language overrides tuples).structs first second) ↔
      ∃ fields ∈ tuples, ∃ others ∈ tuples,
        (AbiType.tuple fields).shape ≠ (AbiType.tuple others).shape ∧
        (ofTraversal language overrides tuples).boundType? language (.tuple fields) =
          (ofTraversal language overrides tuples).boundType? language (.tuple others) := by
  have hdistinct : (ofTraversal language overrides tuples).signatures.Nodup :=
    nodup_signatures_ofTraversal
  constructor
  · rintro ⟨first, second, h⟩
    have hsource : ∀ struct ∈ (ofTraversal language overrides tuples).structs,
        ∃ fields ∈ tuples, tupleSignature fields = struct.signature ∧
          (ofTraversal language overrides tuples).boundType? language (.tuple fields) =
            some struct.name := by
      intro struct hstruct
      have hmem := mem_signatures_of_mem hstruct
      rw [signatures_ofTraversal, mem_map_firstTuples] at hmem
      obtain ⟨fields, hfields, hsignature⟩ := List.mem_map.mp hmem
      have hget := (get?_eq_some_iff hdistinct).mpr ⟨hstruct, hsignature.symm⟩
      exact ⟨fields, hfields, hsignature, Option.map_eq_some_iff.mpr ⟨struct, hget, rfl⟩⟩
    obtain ⟨fields, hfields, hfirst, hname⟩ := hsource first h.mem.1
    obtain ⟨others, hothers, hsecond, hother⟩ := hsource second h.mem.2
    refine ⟨fields, hfields, others, hothers, fun hshape => ?_, ?_⟩
    · have hsame : tupleSignature fields = tupleSignature others :=
        AbiType.signature_eq_iff.mpr hshape
      exact h.signature_ne hdistinct (hfirst.symm.trans (hsame.trans hsecond))
    · obtain ⟨-, -, -, -, -, hclash⟩ := id h
      rw [hname, hother, hclash]
  · rintro ⟨fields, hfields, others, hothers, hshape, hname⟩
    have hgiven : ∀ tuple ∈ tuples, ∃ bound,
        (ofTraversal language overrides tuples).boundType? language (.tuple tuple) =
          some bound := by
      intro tuple htuple
      have hget : (ofTraversal language overrides tuples).boundType? language (.tuple tuple) = _ :=
        get?_ofTraversal (tupleSignature tuple)
      rw [if_pos (List.mem_map_of_mem htuple)] at hget
      exact ⟨_, hget⟩
    obtain ⟨first, hfirst⟩ := hgiven fields hfields
    obtain ⟨second, hsecond⟩ := hgiven others hothers
    -- if the check passed, the same name would mean the same signature
    cases hcheck : (ofTraversal language overrides tuples).checkNames with
    | ok _ =>
      have hsame : first = second := Option.some.inj (hfirst.symm.trans (hname.trans hsecond))
      have hsignature := (boundType?_tuple_eq_iff hcheck hfirst hsecond).mp hsame
      exact absurd (AbiType.signature_eq_iff.mp hsignature) hshape
    | error fault =>
      obtain ⟨first, second, h, -⟩ := checkNames_eq_error_iff.mp hcheck
      exact ⟨first, second, h⟩

end StructRegistry

/-! ### Languages with records -/

theorem Language.parameterFault?_of_hasRecords {language : Language}
    (h : language.hasRecords = true) (parameters : List AbiParameter) :
    language.parameterFault? parameters = none :=
  List.findSome?_eq_none_iff.mpr fun _ _ => tupleFault?_of_hasRecords h _

/-- A language with records classifies every legal ABI. -/
theorem exists_run_classify {language : Language} (h : language.hasRecords = true)
    {abi : ContractAbi} (hlegal : abi.IsLegal) (customs : Customs) (overrides : TextMap String) :
    ∃ result, (classify language customs abi).run (.withOverrides overrides) =
      (.ok result, ofTraversal language overrides (abi.traversal customs)) := by
  have hfails : FailsAs (classify language customs abi) _ := failsAs_classify hlegal customs
  rw [Language.parameterFault?_of_hasRecords h] at hfails
  obtain ⟨result, registry, hrun⟩ := hfails.exists_yields (.withOverrides overrides)
  obtain ⟨rfl, -⟩ := of_yields_classify hrun
  exact ⟨result, hrun⟩

namespace Binder

open StructRegistry (IsFirstClash)

variable {binder : Binder} {name : String} {deployment : Deployment} {abi : ContractAbi}

/-- In a language with records, the first clash of display names is the only fault. -/
theorem bind_eq_error_iff_of_hasRecords (hrecords : binder.config.language.hasRecords = true)
    (habi : deployment.parseAbi = .ok abi) {fault : BindError} :
    binder.bind name deployment = .error fault ↔
      ∃ first second, IsFirstClash (binder.registryOf name abi).structs first second ∧
        fault = .duplicateStruct second.name first.signature second.signature := by
  rw [← faultOf?_eq_some_iff, faultOf?_bind habi, Language.parameterFault?_of_hasRecords hrecords,
    Option.none_or, faultOf?_eq_some_iff, StructRegistry.checkNames_eq_error_iff]

theorem exists_bind_eq_ok_iff_of_hasRecords (hrecords : binder.config.language.hasRecords = true)
    (habi : deployment.parseAbi = .ok abi) :
    (∃ model, binder.bind name deployment = .ok model) ↔
      ¬∃ first second, IsFirstClash (binder.registryOf name abi).structs first second := by
  have herror : ∀ fault, binder.bind name deployment = .error fault ↔ _ := fun _ =>
    bind_eq_error_iff_of_hasRecords hrecords habi
  constructor
  · rintro ⟨model, hmodel⟩ ⟨first, second, h⟩
    have hfails := (herror _).mpr ⟨first, second, h, rfl⟩
    rw [hmodel] at hfails
    cases hfails
  · intro hnone
    cases hresult : binder.bind name deployment with
    | ok model => exact ⟨model, rfl⟩
    | error fault =>
      obtain ⟨first, second, h, -⟩ := (herror fault).mp hresult
      exact absurd ⟨first, second, h⟩ hnone

/-- Without custom names there is no clash. -/
theorem not_isFirstClash_registryOf
    (hempty : (binder.config.customsFor name).structs.isEmpty = true)
    {first second : StructDescriptor} :
    ¬IsFirstClash (binder.registryOf name abi).structs first second := by
  intro h
  have hcustom : ∀ struct, ¬(binder.registryOf name abi).HasCustomName struct := by
    intro struct hgiven
    have hnone : (binder.config.customsFor name).structs.get? struct.signature = none := by
      rw [TextMap.get?, List.isEmpty_iff.mp hempty]
      rfl
    exact absurd (hgiven.symm.trans hnone) (Option.some_ne_none _)
  rcases StructRegistry.IsFirstClash.custom h with ⟨hfirst, -⟩ | ⟨hfirst, -⟩ | ⟨-, hsecond⟩
  · exact hcustom first hfirst
  · exact hcustom first hfirst
  · exact hcustom second hsecond

/-- **Binding for Go**: classification succeeds, and the first clash of display names is the only
fault that there can be. There is one if and only if two tuples of other shapes have the same name,
and one of the two names is then a custom one. -/
theorem bind_golang_outcome (hlanguage : binder.config.language = .golang)
    (habi : deployment.parseAbi = .ok abi) :
    ∃ result registry,
      (classify .golang (binder.config.customsFor name) abi).run
        (.withOverrides (binder.config.customsFor name).structs) = (.ok result, registry) ∧
      (∀ fault, binder.bind name deployment = .error fault ↔
        ∃ first second, IsFirstClash registry.structs first second ∧
          fault = .duplicateStruct second.name first.signature second.signature) ∧
      ((∃ model, binder.bind name deployment = .ok model) ↔
        ¬∃ fields ∈ abi.traversal (binder.config.customsFor name),
          ∃ others ∈ abi.traversal (binder.config.customsFor name),
            (AbiType.tuple fields).shape ≠ (AbiType.tuple others).shape ∧
            registry.boundType? .golang (.tuple fields) =
              registry.boundType? .golang (.tuple others)) ∧
      (∀ first second, IsFirstClash registry.structs first second →
        registry.HasCustomName first ∧ registry.HasCustomName second ∨
          registry.HasCustomName first ∧ registry.HasSynthesizedName .golang second ∨
          registry.HasSynthesizedName .golang first ∧ registry.HasCustomName second) ∧
      ((binder.config.customsFor name).structs.isEmpty = true →
        ∃ model, binder.bind name deployment = .ok model) := by
  have hrecords : binder.config.language.hasRecords = true := by rw [hlanguage]; rfl
  have hlegal := ContractAbi.isLegal_of_ofJson habi
  have hok : (∃ model, binder.bind name deployment = .ok model) ↔ _ :=
    exists_bind_eq_ok_iff_of_hasRecords hrecords habi
  obtain ⟨result, hrun⟩ := exists_run_classify hrecords hlegal (binder.config.customsFor name)
    (binder.config.customsFor name).structs
  have hregistry : ofTraversal .golang (binder.config.customsFor name).structs
      (abi.traversal (binder.config.customsFor name)) = binder.registryOf name abi := by
    rw [registryOf, hlanguage]
  rw [hlanguage, hregistry] at hrun
  refine ⟨result, _, hrun, fun _ => bind_eq_error_iff_of_hasRecords hrecords habi, ?_,
    fun first second h => ?_, fun hempty => hok.mpr ?_⟩
  · rw [hok, ← hregistry, StructRegistry.exists_isFirstClash_iff]
  · rw [← hregistry] at h ⊢
    exact h.custom
  · rintro ⟨first, second, h⟩
    exact not_isFirstClash_registryOf hempty h

end Binder

/-- A function of three tuples of one field each. -/
def threeTuples : Deployment :=
  let parameter (type : String) : Json := .object [("type", .string "tuple"),
    ("components", .array [.object [("type", .string type)]])]
  .ofAbi (.array [.object [("name", .string "f"),
    ("inputs", .array [parameter "bool", parameter "uint8", parameter "address"])]])

/-- The binder for Go under which the first of these tuples has the name that the second one is
given by its place. -/
def firstAsSecondBinder : Binder :=
  ⟨⟨.golang, .ethereum, .ofList [("C", ⟨.ofList [("(bool)", "Struct1")], .empty, .empty⟩)]⟩, rfl⟩

theorem Binder.bind_golang_outcome_threeTuples :
    ∃ abi, threeTuples.parseAbi = .ok abi ∧ firstAsSecondBinder.config.language = .golang ∧
      firstAsSecondBinder.bind "C" threeTuples =
        .error (.duplicateStruct "Struct1" "(bool)" "(uint8)") := by
  have hstructs : (threeTuples.parseAbi.toOption.map fun abi =>
      ((classify .golang (firstAsSecondBinder.config.customsFor "C") abi).run
        (.withOverrides (firstAsSecondBinder.config.customsFor "C").structs)).2.structs.map
        fun struct => (struct.name, struct.signature)) =
      some [("Struct1", "(bool)"), ("Struct1", "(uint8)"), ("Struct2", "(address)")] := by
    decide +kernel
  obtain ⟨abi, habi, hstructs⟩ := Option.map_eq_some_iff.mp hstructs
  rw [except_toOption_eq_some_iff] at habi
  obtain ⟨result, registry, hrun, herror, -⟩ :=
    @Binder.bind_golang_outcome firstAsSecondBinder "C" threeTuples abi rfl habi
  rw [hrun] at hstructs
  obtain ⟨first, _, hregistry, hfirst, hrest⟩ := List.map_eq_cons_iff.mp hstructs
  obtain ⟨second, rest, rfl, hsecond, -⟩ := List.map_eq_cons_iff.mp hrest
  obtain ⟨hfirstName, hfirstSignature⟩ := Prod.mk.inj hfirst
  obtain ⟨hsecondName, hsecondSignature⟩ := Prod.mk.inj hsecond
  have hclash : StructRegistry.IsFirstClash registry.structs first second :=
    ⟨[first], rest, hregistry, List.nodup_singleton _, List.mem_singleton_self first,
      hfirstName.trans hsecondName.symm⟩
  refine ⟨abi, habi, rfl, (herror _).mpr ⟨first, second, hclash, ?_⟩⟩
  rw [hsecondName, hfirstSignature, hsecondSignature]

end ContractBindings
