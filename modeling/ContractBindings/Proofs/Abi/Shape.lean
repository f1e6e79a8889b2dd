import ContractBindings.Abi.Contract
import ContractBindings.Text.Numeral

/-!
# The shape of a type

The **shape** of an ABI type is the type with the field names of its tuples erased, at every
depth. The canonical signature is an unambiguous text of the shape: two types have the same
signature exactly when they have the same shape (`AbiType.signature_eq_iff`).

The constructor is read off the last character of a signature, and an array length off the run
of digits before it. The fields of a tuple are told apart by `splitField`, which cuts a text at
the first comma that stands outside all parentheses: it passes over a whole signature at any
depth, since the commas of a signature stand inside its own parentheses.
-/

namespace ContractBindings

/-- Induction over ABI types: a tuple has the property if the types of all its fields do. -/
theorem AbiType.induct {P : AbiType → Prop}
    (elementary : ∀ kind, P (.elementary kind))
    (array : ∀ element size, P element → P (.array element size))
    (slice : ∀ element, P element → P (.slice element))
    (tuple : ∀ fields : TupleFields, (∀ field ∈ fields, P field.2) → P (.tuple fields)) :
    ∀ type, P type :=
  AbiType.rec (motive_2 := fun fields => ∀ field ∈ fields, P field.2)
    (motive_3 := fun field => P field.2) elementary array slice tuple (by simp)
    (fun head tail hhead htail => by simpa using ⟨hhead, by simpa using htail⟩)
    (fun _ _ h => h)

/-! ### Erasing names -/

mutual

/-- The **shape** of a type: the type without the names of its fields. -/
def AbiType.shape : AbiType → AbiType
  | .elementary kind => .elementary kind
  | .array element size => .array element.shape size
  | .slice element => .slice element.shape
  | .tuple fields => .tuple (fieldShapes fields)

/-- The shapes of a tuple's fields, all without a name. -/
def fieldShapes : List (String × AbiType) → List (String × AbiType)
  | [] => []
  | (_, type) :: rest => ("", type.shape) :: fieldShapes rest

end

theorem fieldShapes_eq_map (fields : TupleFields) :
    fieldShapes fields = fields.map fun field => ("", field.2.shape) := by
  induction fields with
  | nil => rfl
  | cons field rest ih => rw [fieldShapes, ih, List.map_cons]

/-- Erasing names keeps the number of fields. -/
@[simp]
theorem length_fieldShapes (fields : TupleFields) :
    (fieldShapes fields).length = fields.length := by
  simp [fieldShapes_eq_map]

namespace AbiType

/-- The signatures of fields with commas between them, as a join. -/
theorem fieldSignatureChars_cons (field : String × AbiType) (rest : TupleFields) :
    fieldSignatureChars (field :: rest) = signatureChars field.2 ++
      (if rest = [] then [] else ',' :: fieldSignatureChars rest) := by
  cases rest with
  | nil => simp [fieldSignatureChars]
  | cons next rest => simp [fieldSignatureChars]

/-- Field names take no part in a signature. -/
theorem signatureChars_shape (type : AbiType) :
    type.shape.signatureChars = type.signatureChars := by
  induction type using AbiType.induct with
  | elementary kind => rfl
  | array element size ih => simp only [shape, signatureChars, ih]
  | slice element ih => simp only [shape, signatureChars, ih]
  | tuple fields ih =>
    have hfields : fieldSignatureChars (fieldShapes fields) = fieldSignatureChars fields := by
      induction fields with
      | nil => rfl
      | cons field rest ihrest =>
        have hrest := ihrest fun f hf => ih f (List.mem_cons_of_mem _ hf)
        have hnil : fieldShapes rest = [] ↔ rest = [] := by
          rw [← List.length_eq_zero_iff, length_fieldShapes, List.length_eq_zero_iff]
        rw [fieldShapes, fieldSignatureChars_cons, fieldSignatureChars_cons, hrest,
          ih field List.mem_cons_self]
        simp only [hnil]
    simp only [shape, signatureChars, hfields]

end AbiType

/-! ### Signatures of elementary types -/

namespace Elementary

/-- The signature of an elementary type consists of letters and digits. -/
theorem isAlphanum_of_mem_signatureChars {kind : Elementary} {c : Char}
    (h : c ∈ kind.signatureChars) : c.isAlphanum = true := by
  have hdigits : ∀ n, c ∈ Nat.toDigits 10 n → c.isAlphanum = true := fun n hc => by
    rw [Char.isAlphanum, isDigit_of_mem_decimalText hc, Bool.or_true]
  have hword : ∀ word : String, word.toList.all Char.isAlphanum = true → c ∈ word.toList →
      c.isAlphanum = true := fun word hall hc => List.all_eq_true.mp hall c hc
  cases kind with
  | address => exact hword "address" (by decide) h
  | bool => exact hword "bool" (by decide) h
  | string => exact hword "string" (by decide) h
  | bytes => exact hword "bytes" (by decide) h
  | function => exact hword "function" (by decide) h
  | uint bits =>
    exact (List.mem_append.mp h).elim (hword "uint" (by decide)) (hdigits bits)
  | int bits =>
    exact (List.mem_append.mp h).elim (hword "int" (by decide)) (hdigits bits)
  | fixedBytes size =>
    exact (List.mem_append.mp h).elim (hword "bytes" (by decide)) (hdigits size)

/-- The word and the numeral that make up the signature of an elementary type. -/
private def signatureParts : Elementary → String × List Char
  | address => ("address", [])
  | bool => ("bool", [])
  | string => ("string", [])
  | bytes => ("bytes", [])
  | function => ("function", [])
  | uint bits => ("uint", Nat.toDigits 10 bits)
  | int bits => ("int", Nat.toDigits 10 bits)
  | fixedBytes size => ("bytes", Nat.toDigits 10 size)

/-- The word is the part of the signature before the first digit. -/
private theorem takeWhile_signatureChars (kind : Elementary) :
    kind.signatureChars.takeWhile (!·.isDigit) = kind.signatureParts.1.toList ∧
      kind.signatureChars.dropWhile (!·.isDigit) = kind.signatureParts.2 := by
  have hword : ∀ (word : String) (n : Nat), word.toList.all (!·.isDigit) = true →
      (word.toList ++ Nat.toDigits 10 n).takeWhile (!·.isDigit) = word.toList ∧
        (word.toList ++ Nat.toDigits 10 n).dropWhile (!·.isDigit) = Nat.toDigits 10 n := by
    intro word n hall
    rw [List.takeWhile_append_of_pos (by simpa using hall),
      List.dropWhile_append_of_pos (by simpa using hall)]
    cases hn : Nat.toDigits 10 n with
    | nil => simp
    | cons d rest =>
      have hmem : d ∈ decimalText n := by
        rw [decimalText, hn]
        exact List.mem_cons_self
      have hd : d.isDigit = true := isDigit_of_mem_decimalText hmem
      simp [hd]
  cases kind with
  | uint bits => exact hword "uint" bits (by decide)
  | int bits => exact hword "int" bits (by decide)
  | fixedBytes size => exact hword "bytes" size (by decide)
  | _ => decide

/-- The signature tells elementary types apart. -/
theorem signatureChars_injective {k l : Elementary}
    (h : k.signatureChars = l.signatureChars) : k = l := by
  obtain ⟨hword, hnumeral⟩ := takeWhile_signatureChars k
  rw [h, (takeWhile_signatureChars l).1, String.toList_inj] at hword
  rw [h, (takeWhile_signatureChars l).2] at hnumeral
  -- `bytes` and `bytes32` have the same word, but only one has a numeral
  have hne : ∀ n : Nat, Nat.toDigits 10 n ≠ [] := fun n => Nat.toDigits_ne_nil
  cases k <;> cases l <;> simp [signatureParts, hne] at hword hnumeral ⊢
  all_goals exact (decimalText_injective hnumeral).symm

end Elementary

/-! ### Fields of a tuple -/

/-- The number of open parentheses behind a character. -/
def depthBehind (depth : Nat) (c : Char) : Nat :=
  if c = '(' then depth + 1 else if c = ')' then depth - 1 else depth

/-- Cuts a text at the first comma outside all parentheses, where `depth` of them are open at
its start. Gives what comes before the comma, and what comes behind it if there is one. -/
def splitField (depth : Nat) : List Char → List Char × Option (List Char)
  | [] => ([], none)
  | c :: rest =>
    if c = ',' ∧ depth = 0 then ([], some rest)
    else (c :: (splitField (depthBehind depth c) rest).1, (splitField (depthBehind depth c) rest).2)

/-- `splitField` passes over the text without cutting it, and is at the same depth behind it. -/
def PassesOver (depth : Nat) (text : List Char) : Prop :=
  ∀ rest, splitField depth (text ++ rest) =
    (text ++ (splitField depth rest).1, (splitField depth rest).2)

namespace PassesOver

variable {depth : Nat} {text other : List Char}

theorem append (h : PassesOver depth text) (hother : PassesOver depth other) :
    PassesOver depth (text ++ other) := fun rest => by
  rw [List.append_assoc, h, hother, List.append_assoc]

/-- Other characters than commas and parentheses leave the depth as it is. -/
theorem of_plain (h : ∀ c ∈ text, c ≠ ',' ∧ c ≠ '(' ∧ c ≠ ')') : PassesOver depth text := by
  induction text with
  | nil => exact fun rest => rfl
  | cons c text ih =>
    intro rest
    obtain ⟨hcomma, hopen, hclose⟩ := h c List.mem_cons_self
    have hdepth : depthBehind depth c = depth := by simp [depthBehind, hopen, hclose]
    rw [List.cons_append, splitField, if_neg (by simp [hcomma]), hdepth,
      ih fun d hd => h d (List.mem_cons_of_mem c hd)]
    rfl

/-- Inside parentheses a comma does not cut. -/
theorem comma : PassesOver (depth + 1) [','] := fun rest => by
  rw [List.singleton_append, splitField, if_neg (by simp)]
  rfl

theorem parentheses (h : PassesOver (depth + 1) text) :
    PassesOver depth ('(' :: text ++ [')']) := fun rest => by
  have hclose : splitField (depth + 1) (')' :: rest) =
      (')' :: (splitField depth rest).1, (splitField depth rest).2) := by
    rw [splitField, if_neg (by simp)]
    rfl
  have hdepth : depthBehind depth '(' = depth + 1 := rfl
  rw [List.cons_append, List.cons_append, List.append_assoc, List.singleton_append, splitField,
    if_neg (by simp), hdepth, h, hclose]
  simp

end PassesOver

namespace AbiType

section Texts

variable {P : Nat → List Char → Prop}
  (plain : ∀ {depth text}, (∀ c ∈ text, c ≠ ',' ∧ c ≠ '(' ∧ c ≠ ')') → P depth text)
  (append : ∀ {depth text other}, P depth text → P depth other → P depth (text ++ other))
  (comma : ∀ {depth}, P (depth + 1) [','])
include plain append comma

/-- The signatures of fields with commas between them have what the signature of each field and a
comma have, inside parentheses. -/
theorem fieldSignatureChars_induct (depth : Nat) {fields : TupleFields}
    (h : ∀ field ∈ fields, P (depth + 1) field.2.signatureChars) :
    P (depth + 1) (fieldSignatureChars fields) := by
  induction fields with
  | nil => exact plain fun _ hc => absurd hc List.not_mem_nil
  | cons field rest ih =>
    obtain ⟨hfield, hrest⟩ := List.forall_mem_cons.mp h
    rw [fieldSignatureChars_cons]
    refine append hfield ?_
    split
    · exact plain fun _ hc => absurd hc List.not_mem_nil
    · exact append comma (ih hrest)

/-- Induction over signatures as texts: they are made of texts without commas and parentheses, and
of parentheses around texts with commas between them. The depth is the number of parentheses that
are open where a text begins. -/
theorem signatureChars_induct
    (parentheses : ∀ {depth text}, P (depth + 1) text → P depth ('(' :: text ++ [')']))
    (type : AbiType) (depth : Nat) : P depth type.signatureChars := by
  have hplain : ∀ n, ∀ c ∈ '[' :: (Nat.toDigits 10 n ++ [']']),
      c ≠ ',' ∧ c ≠ '(' ∧ c ≠ ')' := fun n c hc => by
    simp only [List.mem_append, List.mem_cons, List.not_mem_nil, or_false] at hc
    rcases hc with rfl | hc | rfl
    · decide
    · have hdigit : c.isDigit = true := isDigit_of_mem_decimalText hc
      refine ⟨?_, ?_, ?_⟩ <;> rintro rfl <;> exact absurd hdigit (by decide)
    · decide
  -- the depth is general, since the fields of a tuple stand one deeper than the tuple
  induction type using AbiType.induct generalizing depth with
  | elementary kind =>
    refine plain fun c hc => ?_
    have halphanum := Elementary.isAlphanum_of_mem_signatureChars hc
    refine ⟨?_, ?_, ?_⟩ <;> rintro rfl <;> exact absurd halphanum (by decide)
  | array element size ih =>
    have h := append (ih depth) (plain (hplain size))
    rwa [← List.cons_append, ← List.append_assoc] at h
  | slice element ih => exact append (ih depth) (plain (by simp))
  | tuple fields ih =>
    exact parentheses (fieldSignatureChars_induct (P := P) plain append comma depth
      fun field hfield => ih field hfield (depth + 1))

end Texts

/-- A signature is passed over at any depth. -/
theorem passesOver_signatureChars (type : AbiType) (depth : Nat) :
    PassesOver depth type.signatureChars :=
  signatureChars_induct (P := PassesOver) .of_plain .append .comma .parentheses type depth

/-- The first field of a tuple is cut off the signatures of all its fields. -/
theorem splitField_fieldSignatureChars (field : String × AbiType) (rest : TupleFields) :
    splitField 0 (fieldSignatureChars (field :: rest)) = (signatureChars field.2,
      if rest = [] then none else some (fieldSignatureChars rest)) := by
  rw [fieldSignatureChars_cons, passesOver_signatureChars field.2 0]
  split <;> simp [splitField]

/-! ### The signature determines the shape -/

/-- Two texts that end in bracket groups without inner brackets are equal only if the groups
are. -/
private theorem eq_of_bracket_eq {s t m n : List Char} (hm : '[' ∉ m) (hn : '[' ∉ n)
    (h : s ++ '[' :: m ++ [']'] = t ++ '[' :: n ++ [']']) : s = t ∧ m = n := by
  have hopen : s ++ '[' :: m = t ++ '[' :: n := List.append_cancel_right h
  -- if one of `s` and `t` went on behind the other, the other's group would have an inner bracket
  rcases List.append_eq_append_iff.mp hopen with ⟨_ | ⟨c, gap⟩, ht, hgap⟩ | ⟨_ | ⟨c, gap⟩, hs, hgap⟩
  · exact ⟨by simpa using ht.symm, by simpa using hgap⟩
  · obtain ⟨-, rfl⟩ := List.cons.inj hgap
    exact absurd (List.mem_append_right gap List.mem_cons_self) hm
  · exact ⟨by simpa using hs, by simpa using hgap.symm⟩
  · obtain ⟨-, rfl⟩ := List.cons.inj hgap
    exact absurd (List.mem_append_right gap List.mem_cons_self) hn

/-- The signatures of arrays and slices end in a bracket group. -/
private theorem signatureChars_array (element : AbiType) (size : Nat) :
    (array element size).signatureChars =
      element.signatureChars ++ '[' :: Nat.toDigits 10 size ++ [']'] := by
  simp [signatureChars]

private theorem signatureChars_slice (element : AbiType) :
    (slice element).signatureChars = element.signatureChars ++ '[' :: [] ++ [']'] := by
  simp [signatureChars]

private theorem signatureChars_tuple (fields : TupleFields) :
    (tuple fields).signatureChars = '(' :: fieldSignatureChars fields ++ [')'] := by
  simp [signatureChars]

/-- The signature of an elementary type is none of a type built from others: it has no bracket
and no parenthesis. -/
private theorem signatureChars_elementary_ne {kind : Elementary} {text : List Char} {c : Char}
    (hc : c.isAlphanum = false) : (elementary kind).signatureChars ≠ text ++ [c] := fun h => by
  have htext : kind.signatureChars = text ++ [c] := h
  have hmem : c ∈ kind.signatureChars := htext ▸ List.mem_append_right text List.mem_cons_self
  rw [Elementary.isAlphanum_of_mem_signatureChars hmem] at hc
  exact absurd hc (by decide)

theorem signatureChars_ne_nil (type : AbiType) : type.signatureChars ≠ [] := by
  cases type with
  | elementary kind =>
    cases kind with
    | uint bits => exact List.append_ne_nil_of_left_ne_nil (by decide) _
    | int bits => exact List.append_ne_nil_of_left_ne_nil (by decide) _
    | fixedBytes size => exact List.append_ne_nil_of_left_ne_nil (by decide) _
    | _ => decide
  | _ => simp [signatureChars]

/-- Tuples with the same field signatures have fields of the same shapes, if each of the fields
does. -/
private theorem fieldShapes_eq {fields others : TupleFields}
    (ih : ∀ field ∈ fields, ∀ {t : AbiType},
      field.2.signatureChars = t.signatureChars → field.2.shape = t.shape)
    (h : fieldSignatureChars fields = fieldSignatureChars others) :
    fieldShapes fields = fieldShapes others := by
  induction fields generalizing others with
  | nil =>
    cases others with
    | nil => rfl
    | cons field rest =>
      rw [fieldSignatureChars_cons] at h
      exact absurd (List.append_eq_nil_iff.mp h.symm).1 (signatureChars_ne_nil field.2)
  | cons field rest ihrest =>
    cases others with
    | nil =>
      rw [fieldSignatureChars_cons] at h
      exact absurd (List.append_eq_nil_iff.mp h).1 (signatureChars_ne_nil field.2)
    | cons other others =>
      -- a field may have commas inside, so the first one is cut off by depth
      have hsplit := congrArg (splitField 0) h
      rw [splitField_fieldSignatureChars, splitField_fieldSignatureChars, Prod.mk.injEq] at hsplit
      obtain ⟨hfield, hrest⟩ := hsplit
      rw [fieldShapes, fieldShapes, ih field List.mem_cons_self hfield]
      congr 1
      by_cases hnil : rest = [] <;> by_cases hothers : others = [] <;>
        simp only [hnil, hothers, if_true, if_false, reduceCtorEq, Option.some.injEq] at hrest
      · rw [hnil, hothers]
      · exact ihrest (fun f hf => ih f (List.mem_cons_of_mem _ hf)) hrest

/-- Types with the same signature have the same shape. -/
theorem shape_eq_of_signatureChars {s t : AbiType}
    (h : s.signatureChars = t.signatureChars) : s.shape = t.shape := by
  have hnumeral : ∀ n, '[' ∉ Nat.toDigits 10 n := notMem_decimalText (by decide)
  have hparen : ∀ {u v : List Char}, u ++ [']'] ≠ v ++ [')'] := fun huv => by
    simpa using congrArg List.getLast? huv
  -- the last character tells the constructors apart: `]`, `)`, or a letter or digit
  induction s using AbiType.induct generalizing t with
  | elementary kind =>
    cases t with
    | elementary other => rw [Elementary.signatureChars_injective h]
    | array element size =>
      exact absurd (h.trans (signatureChars_array _ _)) (signatureChars_elementary_ne (by decide))
    | slice element =>
      exact absurd (h.trans (signatureChars_slice _)) (signatureChars_elementary_ne (by decide))
    | tuple fields =>
      exact absurd (h.trans (signatureChars_tuple _)) (signatureChars_elementary_ne (by decide))
  | array element size ih =>
    rw [signatureChars_array] at h
    cases t with
    | elementary kind => exact absurd h.symm (signatureChars_elementary_ne (by decide))
    | array other length =>
      rw [signatureChars_array] at h
      obtain ⟨helement, hsize⟩ := eq_of_bracket_eq (hnumeral size) (hnumeral length) h
      rw [shape, shape, ih helement, decimalText_injective hsize]
    | slice other =>
      rw [signatureChars_slice] at h
      obtain ⟨-, hsize⟩ := eq_of_bracket_eq (hnumeral size) (by simp) h
      exact absurd hsize Nat.toDigits_ne_nil
    | tuple fields => exact absurd (h.trans (signatureChars_tuple fields)) hparen
  | slice element ih =>
    rw [signatureChars_slice] at h
    cases t with
    | elementary kind => exact absurd h.symm (signatureChars_elementary_ne (by decide))
    | array other length =>
      rw [signatureChars_array] at h
      obtain ⟨-, hsize⟩ := eq_of_bracket_eq (by simp) (hnumeral length) h
      exact absurd hsize.symm Nat.toDigits_ne_nil
    | slice other =>
      rw [signatureChars_slice] at h
      rw [shape, shape, ih (eq_of_bracket_eq (by simp) (by simp) h).1]
    | tuple fields => exact absurd (h.trans (signatureChars_tuple fields)) hparen
  | tuple fields ih =>
    rw [signatureChars_tuple] at h
    cases t with
    | elementary kind => exact absurd h.symm (signatureChars_elementary_ne (by decide))
    | array other length =>
      exact absurd ((signatureChars_array other length).symm.trans h.symm) hparen
    | slice other => exact absurd ((signatureChars_slice other).symm.trans h.symm) hparen
    | tuple others =>
      rw [signatureChars_tuple] at h
      have hfields := (List.cons.inj (List.append_cancel_right h)).2
      rw [shape, shape, fieldShapes_eq (fun field hfield => ih field hfield) hfields]

/-- The canonical signature tells types apart exactly up to the names of fields. -/
theorem signature_eq_iff {s t : AbiType} : s.signature = t.signature ↔ s.shape = t.shape := by
  rw [signature, signature, String.ofList_inj]
  refine ⟨shape_eq_of_signatureChars, fun h => ?_⟩
  rw [← signatureChars_shape s, h, signatureChars_shape t]

end AbiType

/-! ### Parameters -/

/-- The shape of the tuple of some parameters depends on the shapes of their types only. -/
theorem shape_parameterTuple (parameters : List AbiParameter) :
    (parameterTuple parameters).shape =
      .tuple (parameters.map fun parameter => ("", parameter.type.shape)) := by
  rw [parameterTuple, AbiType.shape, fieldShapes_eq_map, List.map_map]
  rfl

end ContractBindings
