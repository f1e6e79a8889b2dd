import ContractBindings.Json.Reader
import ContractBindings.Proofs.Json.Strings
import ContractBindings.TextMap.Lookup
import Mathlib.Data.List.Basic

/-!
# Strings of a JSON text without escapes

In a text without a backslash every string is written as it is. So the strings of the value that
the text denotes consist of characters of the text (`Json.mem_of_mem_strings_ofText?`).

A text is read token by token, with the containers that are still open on a stack.
`State.Within` is the invariant that all strings read so far are made of characters of the text;
one step preserves it (`within_step`), and so does a whole run (`within_readWithin`).
-/

namespace ContractBindings

/-- Units of a string that are all characters of a text. -/
def UnitsWithin (text : List Char) (units : List StringUnit) : Prop :=
  ∀ unit ∈ units, ∃ c ∈ text, unit = .char c

theorem UnitsWithin.mono {text others : List Char} {units : List StringUnit}
    (h : UnitsWithin text units) (hsubset : text ⊆ others) : UnitsWithin others units :=
  fun unit hunit => (h unit hunit).imp fun _ hc => hc.imp_left fun hmem => hsubset hmem

/-- The text of such a string. -/
theorem unitText?_within {text : List Char} {units : List StringUnit} {string : String}
    (hunits : UnitsWithin text units) (h : unitText? units = some string) :
    ∀ c ∈ string.toList, c ∈ text := by
  obtain ⟨chars, hchars, rfl⟩ := Option.map_eq_some_iff.mp h
  rw [String.toList_ofList]
  clear h
  induction units generalizing chars with
  | nil => simp_all [unitChars?]
  | cons unit rest ih =>
    rw [UnitsWithin, List.forall_mem_cons] at hunits
    obtain ⟨⟨c, hc, rfl⟩, hrest⟩ := hunits
    obtain ⟨others, hothers, rfl⟩ := Option.map_eq_some_iff.mp hchars
    exact List.forall_mem_cons.mpr ⟨hc, ih hrest others hothers⟩

/-! ### Tokens -/

namespace Token

/-- A string without escapes is made of characters of the text, and so is what follows it. -/
theorem within_scanString {text rest : List Char} {units : List StringUnit}
    (hplain : '\\' ∉ text) (h : scanString text = some (units, rest)) :
    UnitsWithin text units ∧ rest ⊆ text := by
  induction text generalizing units rest with
  | nil => exact absurd h (by simp [scanString])
  | cons c behind ih =>
    have hbehind : '\\' ∉ behind := fun hmem => hplain (List.mem_cons_of_mem c hmem)
    rw [scanString.eq_def] at h
    split at h
    · rename_i heq
      exact absurd heq (List.cons_ne_nil c behind)
    · -- the closing quote
      rename_i heq
      obtain ⟨rfl, rfl⟩ := List.cons.inj heq
      obtain ⟨rfl, rfl⟩ := Prod.mk.inj (Option.some.inj h)
      exact ⟨fun unit hunit => absurd hunit List.not_mem_nil, List.subset_cons_self _ _⟩
    · rename_i heq
      exact absurd (heq ▸ List.mem_cons_self) hplain
    · rename_i heq
      exact absurd (heq ▸ List.mem_cons_self) hplain
    · -- any other character stands for itself
      rename_i heq
      obtain ⟨rfl, rfl⟩ := List.cons.inj heq
      split at h
      · exact absurd h (by simp)
      · obtain ⟨⟨others, after⟩, hscan, h⟩ := Option.bind_eq_some_iff.mp h
        obtain ⟨rfl, rfl⟩ := Prod.mk.inj (Option.some.inj h)
        obtain ⟨hunits, hsubset⟩ := ih hbehind hscan
        refine ⟨List.forall_mem_cons.mpr ⟨⟨_, List.mem_cons_self, rfl⟩, ?_⟩, ?_⟩
        · exact hunits.mono (List.subset_cons_self _ _)
        · exact fun d hd => List.mem_cons_of_mem _ (hsubset hd)

section Numbers

variable {text rest : List Char}

theorem subset_scanDigits? {digits : List Char} (h : scanDigits? text = some (digits, rest)) :
    rest ⊆ text := by
  rw [scanDigits?] at h
  dsimp only [scanDigits] at h
  split at h
  · exact absurd h (by simp)
  · obtain ⟨-, rfl⟩ := Prod.mk.inj (Option.some.inj h)
    exact (List.dropWhile_sublist _).subset

theorem subset_scanWhole {digits : List Char} (h : scanWhole text = some (digits, rest)) :
    rest ⊆ text := by
  rw [scanWhole.eq_def] at h
  split at h
  · obtain ⟨-, rfl⟩ := Prod.mk.inj (Option.some.inj h)
    exact List.subset_cons_self _ _
  · exact subset_scanDigits? h

theorem subset_scanFraction {digits : List Char} (h : scanFraction text = some (digits, rest)) :
    rest ⊆ text := by
  rw [scanFraction.eq_def] at h
  split at h
  · exact List.subset_cons_of_subset _ (subset_scanDigits? h)
  · obtain ⟨-, rfl⟩ := Prod.mk.inj (Option.some.inj h)
    exact List.Subset.refl _

theorem subset_scanSigned {value : Int} (h : scanSigned text = some (value, rest)) :
    rest ⊆ text := by
  rw [scanSigned.eq_def] at h
  split at h
  all_goals
    obtain ⟨⟨digits, after⟩, hdigits, h⟩ := Option.map_eq_some_iff.mp h
    obtain ⟨-, rfl⟩ := Prod.mk.inj h
  · exact List.subset_cons_of_subset _ (subset_scanDigits? hdigits)
  · exact List.subset_cons_of_subset _ (subset_scanDigits? hdigits)
  · exact subset_scanDigits? hdigits

theorem subset_scanExponent {value : Option Int} (h : scanExponent text = some (value, rest)) :
    rest ⊆ text := by
  rw [scanExponent.eq_def] at h
  split at h
  · obtain ⟨⟨signed, after⟩, hsigned, h⟩ := Option.map_eq_some_iff.mp h
    obtain ⟨-, rfl⟩ := Prod.mk.inj h
    exact List.subset_cons_of_subset _ (subset_scanSigned hsigned)
  · obtain ⟨⟨signed, after⟩, hsigned, h⟩ := Option.map_eq_some_iff.mp h
    obtain ⟨-, rfl⟩ := Prod.mk.inj h
    exact List.subset_cons_of_subset _ (subset_scanSigned hsigned)
  · obtain ⟨-, rfl⟩ := Prod.mk.inj (Option.some.inj h)
    exact List.Subset.refl _

theorem subset_scanNumber {negative : Bool} {literal : NumberLiteral}
    (h : scanNumber negative text = some (literal, rest)) : rest ⊆ text := by
  obtain ⟨⟨whole, first⟩, hwhole, h⟩ := Option.bind_eq_some_iff.mp h
  obtain ⟨⟨fraction, second⟩, hfraction, h⟩ := Option.bind_eq_some_iff.mp h
  obtain ⟨⟨exponent, third⟩, hexponent, h⟩ := Option.bind_eq_some_iff.mp h
  obtain ⟨-, rfl⟩ := Prod.mk.inj (Option.some.inj h)
  exact List.Subset.trans (subset_scanExponent hexponent)
    (List.Subset.trans (subset_scanFraction hfraction) (subset_scanWhole hwhole))

end Numbers

/-- Token whose string is made of characters of a text. -/
def Within (text : List Char) : Token → Prop
  | .string units => UnitsWithin text units
  | _ => True

theorem Within.mono {text others : List Char} {token : Token} (h : token.Within text)
    (hsubset : text ⊆ others) : token.Within others := by
  cases token with
  | string units => exact UnitsWithin.mono h hsubset
  | _ => trivial

theorem within_scanOne {text rest : List Char} {token : Token} (hplain : '\\' ∉ text)
    (h : scanOne text = some (token, rest)) : token.Within text ∧ rest ⊆ text := by
  rw [scanOne.eq_def] at h
  split at h
  · exact absurd h (by simp)
  -- brackets, separators and words
  iterate 9
    · obtain ⟨rfl, rfl⟩ := Prod.mk.inj (Option.some.inj h)
      exact ⟨trivial, fun c hc => by simp [hc]⟩
  · obtain ⟨⟨units, after⟩, hscan, h⟩ := Option.map_eq_some_iff.mp h
    obtain ⟨rfl, rfl⟩ := Prod.mk.inj h
    obtain ⟨hunits, hsubset⟩ := within_scanString (fun hmem => hplain (by simp [hmem])) hscan
    exact ⟨hunits.mono (List.subset_cons_self _ _), List.subset_cons_of_subset _ hsubset⟩
  · obtain ⟨⟨literal, after⟩, hscan, h⟩ := Option.map_eq_some_iff.mp h
    obtain ⟨rfl, rfl⟩ := Prod.mk.inj h
    exact ⟨trivial, List.subset_cons_of_subset _ (subset_scanNumber hscan)⟩
  · obtain ⟨⟨literal, after⟩, hscan, h⟩ := Option.map_eq_some_iff.mp h
    obtain ⟨rfl, rfl⟩ := Prod.mk.inj h
    exact ⟨trivial, subset_scanNumber hscan⟩

end Token

/-! ### Documents -/

namespace Document

/-- **Document** whose strings are made of characters of a text. -/
inductive Within (text : List Char) : Document → Prop
  | null : Within text .null
  | bool (value : Bool) : Within text (.bool value)
  | number (literal : NumberLiteral) : Within text (.number literal)
  | string {units : List StringUnit} (h : UnitsWithin text units) : Within text (.string units)
  | array {items : List Document} (h : ∀ item ∈ items, Within text item) :
      Within text (.array items)
  | object {members : List (List StringUnit × Document)}
      (hnames : ∀ member ∈ members, UnitsWithin text member.1)
      (hvalues : ∀ member ∈ members, Within text member.2) :
      Within text (.object members)

/-- What a member has to satisfy. -/
def MemberWithin (text : List Char) (member : List StringUnit × Document) : Prop :=
  UnitsWithin text member.1 ∧ member.2.Within text

/-- Open container whose strings so far are made of characters of a text. -/
def Frame.Within (text : List Char) : Frame → Prop
  | .array shape items => shape = .any ∧ ∀ item ∈ items, item.Within text
  | .object shape members name =>
    shape = .any ∧ UnitsWithin text name ∧ ∀ member ∈ members, MemberWithin text member

/-- **Invariant** of a run: the strings so far are made of characters of a text, and no byte
sequence is expected anywhere. -/
def State.Within (text : List Char) : State → Prop
  | .value shape stack | .firstItem shape stack | .firstName shape stack =>
    shape = .any ∧ ∀ frame ∈ stack, frame.Within text
  | .surplus _ _ => False
  | .name shape members stack =>
    shape = .any ∧ (∀ member ∈ members, MemberWithin text member) ∧
      ∀ frame ∈ stack, frame.Within text
  | .colon shape members nextName stack =>
    shape = .any ∧ UnitsWithin text nextName ∧ (∀ member ∈ members, MemberWithin text member) ∧
      ∀ frame ∈ stack, frame.Within text
  | .done document stack => document.Within text ∧ ∀ frame ∈ stack, frame.Within text

variable {text : List Char}

theorem within_startValue {stack : List Frame} {token : Token} {after : State}
    (hstack : ∀ frame ∈ stack, frame.Within text) (htoken : token.Within text)
    (h : startValue .any stack token = some after) : after.Within text := by
  rw [startValue.eq_def] at h
  split at h
  · obtain rfl := Option.some.inj h
    exact ⟨.null, hstack⟩
  · obtain rfl := Option.some.inj h
    exact ⟨.bool _, hstack⟩
  · obtain rfl := Option.some.inj h
    exact ⟨.number _, hstack⟩
  · obtain rfl := Option.some.inj h
    exact ⟨.string htoken, hstack⟩
  · obtain rfl := Option.some.inj h
    exact ⟨rfl, hstack⟩
  · obtain rfl := Option.some.inj h
    exact ⟨rfl, hstack⟩
  · exact absurd h (by simp)

theorem within_continueValue {value : Document} {stack : List Frame} {token : Token}
    {after : State} (hvalue : value.Within text) (hstack : ∀ frame ∈ stack, frame.Within text)
    (h : continueValue value stack token = some after) : after.Within text := by
  rw [continueValue.eq_def] at h
  split at h
  · obtain rfl := Option.some.inj h
    obtain ⟨⟨rfl, hitems⟩, hbelow⟩ := List.forall_mem_cons.mp hstack
    exact ⟨rfl, List.forall_mem_cons.mpr ⟨⟨rfl, List.forall_mem_cons.mpr ⟨hvalue, hitems⟩⟩, hbelow⟩⟩
  · obtain rfl := Option.some.inj h
    obtain ⟨⟨-, hitems⟩, hbelow⟩ := List.forall_mem_cons.mp hstack
    refine ⟨.array fun item hitem => ?_, hbelow⟩
    exact List.forall_mem_cons.mpr ⟨hvalue, hitems⟩ item (List.mem_reverse.mp hitem)
  · obtain rfl := Option.some.inj h
    obtain ⟨⟨rfl, hname, hmembers⟩, hbelow⟩ := List.forall_mem_cons.mp hstack
    exact ⟨rfl, List.forall_mem_cons.mpr ⟨⟨hname, hvalue⟩, hmembers⟩, hbelow⟩
  · obtain rfl := Option.some.inj h
    obtain ⟨⟨-, hname, hmembers⟩, hbelow⟩ := List.forall_mem_cons.mp hstack
    have hall : ∀ member ∈ (_, value) :: _, MemberWithin text member :=
      List.forall_mem_cons.mpr ⟨⟨hname, hvalue⟩, hmembers⟩
    exact ⟨.object (fun member hmember => (hall member (List.mem_reverse.mp hmember)).1)
      fun member hmember => (hall member (List.mem_reverse.mp hmember)).2, hbelow⟩
  · exact absurd h (by simp)

/-- One token preserves the invariant. -/
theorem within_step {state after : State} {token : Token} (hstate : state.Within text)
    (htoken : token.Within text) (h : step state token = some after) : after.Within text := by
  rw [step.eq_def] at h
  split at h
  · obtain ⟨rfl, hstack⟩ := hstate
    exact within_startValue hstack htoken h
  · obtain rfl := Option.some.inj h
    exact ⟨.array fun item hitem => absurd hitem List.not_mem_nil, hstate.2⟩
  · obtain ⟨rfl, hstack⟩ := hstate
    have hframe : Frame.Within text (.array .any []) := ⟨rfl, List.forall_mem_nil _⟩
    exact within_startValue (List.forall_mem_cons.mpr ⟨hframe, hstack⟩) htoken h
  · obtain rfl := Option.some.inj h
    exact ⟨.object (List.forall_mem_nil _) (List.forall_mem_nil _), hstate.2⟩
  · obtain rfl := Option.some.inj h
    exact ⟨hstate.1, htoken, List.forall_mem_nil _, hstate.2⟩
  · obtain rfl := Option.some.inj h
    exact ⟨hstate.1, htoken, hstate.2⟩
  · obtain rfl := Option.some.inj h
    obtain ⟨rfl, hname, hmembers, hstack⟩ := hstate
    refine ⟨?_, List.forall_mem_cons.mpr ⟨⟨rfl, hname, hmembers⟩, hstack⟩⟩
    rw [memberShape]
    split <;> rfl
  · exact within_continueValue hstate.1 hstate.2 h
  · exact absurd h (by simp)

/-- One token off the text preserves the invariant. -/
theorem within_advance {state after : State} {text' rest : List Char} (hplain : '\\' ∉ text')
    (hsubset : text' ⊆ text) (hstate : state.Within text)
    (h : advance state text' = some (after, rest)) : after.Within text ∧ rest ⊆ text' := by
  rw [advance.eq_def] at h
  split at h
  · exact hstate.elim
  · obtain ⟨⟨token, others⟩, hscan, h⟩ := Option.bind_eq_some_iff.mp h
    obtain ⟨next, hstep, h⟩ := Option.bind_eq_some_iff.mp h
    obtain ⟨rfl, rfl⟩ := Prod.mk.inj (Option.some.inj h)
    obtain ⟨htoken, hrest⟩ := Token.within_scanOne hplain hscan
    exact ⟨within_step hstate (htoken.mono hsubset) hstep, hrest⟩

/-- A run preserves the invariant. -/
theorem within_readWithin {steps : Nat} {state after : State} {rest : List Char}
    (hplain : '\\' ∉ text) (hrest : rest ⊆ text) (hstate : state.Within text)
    (h : readWithin steps state rest = some after) : after.Within text := by
  -- the characters that are left stay part of the text, so later tokens are within it, too
  induction steps generalizing state rest with
  | zero => exact absurd h (by simp [readWithin])
  | succ steps ih =>
    rw [readWithin] at h
    split at h
    · exact Option.some.inj h ▸ hstate
    · rename_i c behind heq
      have hremaining : c :: behind ⊆ text := by
        rw [← heq]
        exact List.Subset.trans (List.dropWhile_sublist _).subset hrest
      split at h
      · rename_i next others hadvance
        obtain ⟨hnext, hothers⟩ := within_advance (fun hmem => hplain (hremaining hmem)) hremaining
          hstate hadvance
        exact ih (List.Subset.trans hothers hremaining) hnext h
      · exact absurd h (by simp)

theorem within_ofText? {string : String} {document : Document} (hplain : '\\' ∉ string.toList)
    (h : Document.ofText? string = some document) : document.Within string.toList := by
  rw [Document.ofText?, ofShapedText?] at h
  split at h
  · rename_i hread
    obtain rfl := Option.some.inj h
    have hstart : State.Within string.toList (.value .any []) := ⟨rfl, List.forall_mem_nil _⟩
    exact (within_readWithin hplain (List.Subset.refl _) hstart hread).1
  · exact absurd h (by simp)

theorem exists_of_itemsToJson? {depth : Nat} {items : List Document} {values : List Json}
    (h : itemsToJson? depth items = some values) :
    ∀ value ∈ values, ∃ item ∈ items, item.toJson? depth = some value := by
  induction items generalizing values with
  | nil =>
    obtain rfl := Option.some.inj h
    exact List.forall_mem_nil _
  | cons item rest ih =>
    obtain ⟨value, hvalue, h⟩ := Option.bind_eq_some_iff.mp h
    obtain ⟨others, hothers, h⟩ := Option.bind_eq_some_iff.mp h
    obtain rfl := Option.some.inj h
    refine List.forall_mem_cons.mpr ⟨⟨item, List.mem_cons_self, hvalue⟩, fun other hother => ?_⟩
    obtain ⟨source, hsource, hother⟩ := ih hothers other hother
    exact ⟨source, List.mem_cons_of_mem item hsource, hother⟩

theorem exists_of_membersToJson? {depth : Nat} {members : List (List StringUnit × Document)}
    {pairs : List (String × Json)} (h : membersToJson? depth members = some pairs) :
    ∀ pair ∈ pairs, ∃ member ∈ members,
      unitText? member.1 = some pair.1 ∧ member.2.toJson? depth = some pair.2 := by
  induction members generalizing pairs with
  | nil =>
    obtain rfl := Option.some.inj h
    exact List.forall_mem_nil _
  | cons member rest ih =>
    obtain ⟨name, hname, h⟩ := Option.bind_eq_some_iff.mp h
    obtain ⟨value, hvalue, h⟩ := Option.bind_eq_some_iff.mp h
    obtain ⟨others, hothers, h⟩ := Option.bind_eq_some_iff.mp h
    obtain rfl := Option.some.inj h
    refine List.forall_mem_cons.mpr ⟨⟨member, List.mem_cons_self, hname, hvalue⟩, ?_⟩
    intro other hother
    obtain ⟨source, hsource, hother⟩ := ih hothers other hother
    exact ⟨source, List.mem_cons_of_mem member hsource, hother⟩

/-- What a document denotes has the strings of the document. -/
theorem mem_of_mem_strings_toJson? {document : Document} (hdocument : document.Within text)
    {depth : Nat} {value : Json} (h : document.toJson? depth = some value) :
    ∀ string ∈ value.strings, ∀ c ∈ string.toList, c ∈ text := by
  induction hdocument generalizing depth value with
  | null =>
    obtain rfl := Option.some.inj h
    exact List.forall_mem_nil _
  | bool b =>
    obtain rfl := Option.some.inj h
    exact List.forall_mem_nil _
  | number literal =>
    obtain ⟨number, -, rfl⟩ := Option.map_eq_some_iff.mp h
    exact List.forall_mem_nil _
  | string hunits =>
    obtain ⟨string, hstring, rfl⟩ := Option.map_eq_some_iff.mp h
    exact List.forall_mem_singleton.mpr (unitText?_within hunits hstring)
  | array hitems ih =>
    cases depth with
    | zero => exact absurd h (by simp [toJson?])
    | succ depth =>
      obtain ⟨values, hvalues, rfl⟩ := Option.map_eq_some_iff.mp h
      intro string hstring
      obtain ⟨value, hvalue, hstring⟩ := Json.mem_strings_array.mp hstring
      obtain ⟨item, hitem, hdenotes⟩ := exists_of_itemsToJson? hvalues value hvalue
      exact ih item hitem hdenotes string hstring
  | object hnames hvalues ih =>
    cases depth with
    | zero => exact absurd h (by simp [toJson?])
    | succ depth =>
      obtain ⟨pairs, hpairs, rfl⟩ := Option.map_eq_some_iff.mp h
      intro string hstring
      obtain ⟨pair, hpair, hstring⟩ := Json.mem_strings_object.mp hstring
      -- a member that another of its name replaces is lost, but none is new
      obtain ⟨member, hmember, hname, hdenotes⟩ :=
        exists_of_membersToJson? hpairs pair (TextMap.mem_of_mem_entries_ofList hpair)
      rcases hstring with rfl | hstring
      · exact unitText?_within (hnames member hmember) hname
      · exact ih member hmember hdenotes string hstring

end Document

/-- **Strings without escapes**: they consist of characters of the text. -/
theorem Json.mem_of_mem_strings_ofText? {text : String} {value : Json}
    (hplain : '\\' ∉ text.toList) (h : Json.ofText? text = some value) :
    ∀ string ∈ value.strings, ∀ c ∈ string.toList, c ∈ text.toList := by
  obtain ⟨document, hdocument, hvalue⟩ := Option.bind_eq_some_iff.mp h
  exact Document.mem_of_mem_strings_toJson? (Document.within_ofText? hplain hdocument) hvalue

end ContractBindings
