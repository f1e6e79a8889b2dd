import ContractBindings.Proofs.Binding.Lookup
import ContractBindings.Proofs.Json.Reading

/-!
# The ABI inside a string literal

The text of the ABI in a model is meant to be the body of a string literal. `readLiteral?` reads
such a body. What it gives is the compact text of the ABI with the blanks left out everywhere,
inside strings too, so it denotes the ABI exactly when the ABI has no blank in its strings
(`readLiteral?_inputAbi`). All this is for an ABI whose strings need no escape.
-/

namespace ContractBindings

/-! ### String literals -/

/-- The characters that the body of a string literal stands for. A backslash stands before a
quote or another backslash, and no quote stands without one. -/
def readLiteralChars? : List Char → Option (List Char)
  | [] => some []
  | '\\' :: '"' :: rest => (readLiteralChars? rest).map ('"' :: ·)
  | '\\' :: '\\' :: rest => (readLiteralChars? rest).map ('\\' :: ·)
  | c :: rest => if c = '"' ∨ c = '\\' then none else (readLiteralChars? rest).map (c :: ·)

/-- **Reads** the body of a string literal. -/
def readLiteral? (body : String) : Option String :=
  (readLiteralChars? body.toList).map .ofList

/-- A text without a backslash is read back when its quotes have been escaped. -/
theorem readLiteralChars?_flatMap {text : List Char} (h : '\\' ∉ text) :
    readLiteralChars? (text.flatMap fun c => if c = '"' then ['\\', '"'] else [c]) =
      some text := by
  induction text with
  | nil => rfl
  | cons c rest ih =>
    have hrest := ih fun hmem => h (List.mem_cons_of_mem c hmem)
    rw [List.flatMap_cons]
    by_cases hquote : c = '"'
    · rw [if_pos hquote, hquote, List.cons_append, List.cons_append, List.nil_append,
        readLiteralChars?, hrest]
      rfl
    · have hbackslash : c ≠ '\\' := fun heq => h (heq ▸ List.mem_cons_self)
      rw [if_neg hquote, List.singleton_append, readLiteralChars?, hrest,
        if_neg (not_or.mpr ⟨hquote, hbackslash⟩)]
      · rfl
      all_goals exact fun _ heq => absurd heq hbackslash

/-! ### The text in a model -/

theorem isBlank_of_mem_stripAbi {raw : String} {c : Char} (h : c ∈ (stripAbi raw).toList) :
    isBlank c = false := by
  rw [stripAbi, String.toList_ofList, List.mem_flatMap] at h
  obtain ⟨source, hsource, hmem⟩ := h
  split at hmem
  · have hall : ['\\', '"'].all (fun c => !isBlank c) = true := by decide
    simpa using List.all_eq_true.mp hall c hmem
  · rw [List.mem_singleton.mp hmem]
    simpa using (List.mem_filter.mp hsource).2

/-- **The ABI in a model**: it has no blank. If no string of the ABI has to be escaped, it reads
as the compact text of the ABI with the blanks left out of its strings; this denotes the ABI,
provided that the compact text of the ABI does, exactly if no string of the ABI has a blank. -/
theorem readLiteral?_inputAbi {binder : Binder} {name : String} {deployment : Deployment}
    {model : ContractModel} (h : binder.bind name deployment = .ok model) :
    (∀ c ∈ model.inputAbi.toList, isBlank c = false) ∧
      (deployment.abi.Plain →
        ∃ text, readLiteral? model.inputAbi = some text ∧
          text = deployment.abi.withoutBlanks.compact ∧
          (Json.ofText? deployment.rawAbi = some deployment.abi →
            (Json.ofText? text = some deployment.abi ↔ deployment.abi.Blankless))) := by
  obtain ⟨_, _, _, -, -, hassemble⟩ := Binder.bind_eq_ok_iff.mp h
  obtain ⟨-, rfl⟩ := Binder.assemble_eq_ok_iff.mp hassemble
  refine ⟨fun c => isBlank_of_mem_stripAbi, fun hplain => ?_⟩
  have hchars : deployment.abi.withoutBlanks.compact.toList = dropBlanks deployment.abi.chars := by
    rw [Json.compact, String.toList_ofList, Json.chars_withoutBlanks hplain]
  have hbackslash : '\\' ∉ dropBlanks deployment.abi.chars := fun hmem =>
    Json.notMem_chars_of_plain hplain (List.mem_filter.mp hmem).1
  refine ⟨deployment.abi.withoutBlanks.compact, ?_, rfl, fun hread => ⟨?_, ?_⟩⟩
  · rw [readLiteral?, stripAbi, Deployment.rawAbi, Json.compact, String.toList_ofList,
      String.toList_ofList, readLiteralChars?_flatMap hbackslash, ← hchars, Option.map_some,
      String.ofList_toList]
  · intro htext string hstring c hc
    -- without an escape, a blank in a string would be a blank in the text
    have hmem := Json.mem_of_mem_strings_ofText? (hchars ▸ hbackslash) htext string hstring c hc
    rw [hchars] at hmem
    simpa using (List.mem_filter.mp hmem).2
  · intro hblankless
    rw [Json.withoutBlanks_eq_self hblankless]
    exact hread

/-- A function with one parameter, whose type the source of the contract names as given. -/
def typedAs (internalType : String) : Deployment :=
  .ofAbi (.array [.object [
    ("inputs", .array [.object [("internalType", .string internalType), ("name", .string "x"),
      ("type", .string "uint8")]]),
    ("name", .string "f"), ("type", .string "function")]])

private theorem ofText?_eq_of_same {text : String} {value : Json}
    (h : (Json.ofText? text).any (Json.same · value) = true) : Json.ofText? text = some value := by
  obtain ⟨other, hread, hsame⟩ := (Option.any_eq_true _ _).mp h
  rw [hread, Json.eq_of_same hsame]

theorem readLiteral?_inputAbi_typedAs :
    ∃ model text, plainBinder.bind "C" (typedAs "enumA.B") = .ok model ∧
      readLiteral? model.inputAbi = some text ∧
      Json.ofText? text = some (typedAs "enumA.B").abi := by
  have hread : Json.ofText? (typedAs "enumA.B").rawAbi = some (typedAs "enumA.B").abi :=
    ofText?_eq_of_same (by decide +kernel)
  have hplain : (typedAs "enumA.B").abi.Plain := by decide +kernel
  have hblankless : (typedAs "enumA.B").abi.Blankless := by decide +kernel
  have hbinds : (plainBinder.bind "C" (typedAs "enumA.B")).toOption.isSome = true := by
    decide +kernel
  obtain ⟨model, h⟩ := Option.isSome_iff_exists.mp hbinds
  rw [except_toOption_eq_some_iff] at h
  obtain ⟨text, htext, -, hiff⟩ := (readLiteral?_inputAbi h).2 hplain
  exact ⟨model, text, h, htext, (hiff hread).mpr hblankless⟩

theorem readLiteral?_inputAbi_spaced :
    ∃ model text, plainBinder.bind "C" (typedAs "enum A.B") = .ok model ∧
      Json.ofText? (typedAs "enum A.B").rawAbi = some (typedAs "enum A.B").abi ∧
      readLiteral? model.inputAbi = some text ∧
      Json.ofText? text = some (typedAs "enumA.B").abi ∧
      (typedAs "enumA.B").abi ≠ (typedAs "enum A.B").abi := by
  have hread : Json.ofText? (typedAs "enum A.B").rawAbi = some (typedAs "enum A.B").abi :=
    ofText?_eq_of_same (by decide +kernel)
  have hliteral : ((plainBinder.bind "C" (typedAs "enum A.B")).toOption.bind fun model =>
      readLiteral? model.inputAbi).any (fun text =>
        (Json.ofText? text).any (Json.same · (typedAs "enumA.B").abi)) = true := by
    decide +kernel
  obtain ⟨text, hmodel, hsame⟩ := (Option.any_eq_true _ _).mp hliteral
  obtain ⟨model, h, htext⟩ := Option.bind_eq_some_iff.mp hmodel
  refine ⟨model, text, except_toOption_eq_some_iff.mp h, hread, htext, ofText?_eq_of_same hsame,
    fun heq => ?_⟩
  exact absurd (congrArg Json.compact heq) (by decide +kernel)

end ContractBindings
