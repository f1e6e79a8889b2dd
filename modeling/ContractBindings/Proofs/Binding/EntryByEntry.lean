import ContractBindings.Proofs.Binding.Entries

/-!
# Classification entry by entry

`classify` takes the bound entries out of an ABI before it does anything else.
`classifyEntryByEntry` goes through all entries instead, with the names that are taken and the
classification that there is so far, and passes over an entry when its turn comes. Both are the same
computation (`classifyEntryByEntry_eq`): passing over an entry leaves behind what it has found. So
the entries that are left out might as well not be there (`run_classify_included`).
-/

namespace ContractBindings

/-! ### Entering an entry -/

namespace Classification

/-- The classification of an ABI without an entry. -/
protected def empty : Classification := ⟨.empty, .empty, .empty, none, .empty⟩

/-- A classification with one more method. -/
def enterMethod (result : Classification) (key : String) (method : BoundMethod) :
    Classification :=
  let signatures := result.signatures.insert method.function.signature key
  if method.function.isConstant then
    { result with calls := result.calls.insert key method, signatures }
  else { result with transacts := result.transacts.insert key method, signatures }

/-- A classification with one more event. -/
def enterEvent (result : Classification) (key : String) (event : BoundEvent) : Classification :=
  { result with
    events := result.events.insert key event
    signatures := result.signatures.insert event.event.signature key }

/-- A classification with more methods, entered one after the other. -/
def enterMethods (result : Classification) (methods : List (String × BoundMethod)) :
    Classification :=
  methods.foldl (fun result keyed => result.enterMethod keyed.1 keyed.2) result

/-- A classification with more events, entered one after the other. -/
def enterEvents (result : Classification) (events : List (String × BoundEvent)) :
    Classification :=
  events.foldl (fun result keyed => result.enterEvent keyed.1 keyed.2) result

/-- Methods are set in the calls or the transacts, and in the signatures. -/
theorem enterMethods_eq (result : Classification) (methods : List (String × BoundMethod)) :
    result.enterMethods methods = { result with
      calls := result.calls.insertMany (methods.filter (·.2.function.isConstant))
      transacts := result.transacts.insertMany (methods.filter (!·.2.function.isConstant))
      signatures := result.signatures.insertMany
        (methods.map fun (key, method) => (method.function.signature, key)) } := by
  induction methods generalizing result with
  | nil => rfl
  | cons keyed rest ih =>
    rw [enterMethods, List.foldl_cons, ← enterMethods, ih, enterMethod]
    cases hconstant : keyed.2.function.isConstant with
    | true => simp [hconstant, TextMap.insertMany]
    | false => simp [hconstant, TextMap.insertMany]

/-- Events are set in the events and in the signatures. -/
theorem enterEvents_eq (result : Classification) (events : List (String × BoundEvent)) :
    result.enterEvents events = { result with
      events := result.events.insertMany events
      signatures := result.signatures.insertMany
        (events.map fun (key, event) => (event.event.signature, key)) } := by
  induction events generalizing result with
  | nil => rfl
  | cons keyed rest ih =>
    rw [enterEvents, List.foldl_cons, ← enterEvents, ih, enterEvent]
    rfl

/-- Entering methods and then events makes the classification of them. -/
theorem ofBound_eq_enter (methods : List (String × BoundMethod))
    (events : List (String × BoundEvent)) (constructor : Option BoundMethod) :
    ofBound methods events constructor =
      { (Classification.empty.enterMethods methods).enterEvents events with constructor } := by
  rw [enterEvents_eq, enterMethods_eq, ofBound]
  simp only [TextMap.ofList, TextMap.insertMany, List.foldl_append]
  rfl

end Classification

/-! ### One namespace -/

/-- **Progress** through the entries of one namespace. -/
structure Progress where
  /-- The names made from the keys so far. -/
  taken : List String
  /-- The classification so far. -/
  result : Classification

namespace Progress

variable {α β : Type} (language : Language) (name : α → String) (included : α → Bool)
  (bound : String → α → Resolve β) (enter : Classification → String → β → Classification)

/-- Goes on to the next entry: it is passed over, or else it claims a key under which it is bound
and entered. -/
def next (progress : Progress) (entry : α) : Resolve Progress :=
  if included entry then do
    let key := language.freshKey progress.taken (name entry)
    let result ← bound key entry
    return ⟨progress.taken ++ [language.methodName key], enter progress.result key result⟩
  else return progress

/-- Going through all entries binds those that are not passed over, under the keys that they have
without the others. -/
theorem foldlM_next (entries : List α) (taken : List String) (result : Classification) :
    entries.foldlM (next language name included bound enter) ⟨taken, result⟩ =
      let keys := language.claimKeysAfter taken ((entries.filter included).map name)
      (keys.zip (entries.filter included)).mapM (fun (key, entry) =>
        return (key, ← bound key entry)) >>= fun results =>
          pure ⟨taken ++ keys.map language.methodName,
            results.foldl (fun result keyed => enter result keyed.1 keyed.2) result⟩ := by
  induction entries generalizing taken result with
  | nil => simp [Language.claimKeysAfter]
  | cons entry rest ih =>
    rw [List.foldlM_cons, next]
    cases hincluded : included entry with
    | false =>
      -- the next entry finds what this one has found
      rw [if_neg Bool.false_ne_true, pure_bind, ih, List.filter_cons_of_neg (by simp [hincluded])]
    | true =>
      rw [if_pos rfl, List.filter_cons_of_pos hincluded, List.map_cons, Language.claimKeysAfter]
      simp only [List.zip_cons_cons, List.mapM_cons, bind_assoc, pure_bind, ih, List.map_cons,
        List.foldl_cons, List.append_assoc, List.singleton_append]

end Progress

/-! ### Contracts -/

/-- **Classifies** an ABI entry by entry. -/
def classifyEntryByEntry (language : Language) (customs : Customs) (abi : ContractAbi) :
    Resolve Classification := do
  let methods ← abi.functions.foldlM (Progress.next language AbiFunction.name
    (fun f => customs.includesMethod f.name) (bindMethod language) Classification.enterMethod)
    ⟨[], .empty⟩
  let events ← abi.events.foldlM (Progress.next language AbiEvent.name (!·.anonymous)
    (bindEvent language) Classification.enterEvent) ⟨[], methods.result⟩
  let constructor ← abi.constructor.mapM (bindMethod language "")
  return { events.result with constructor }

/-- It makes no difference when an entry is passed over. -/
theorem classifyEntryByEntry_eq (language : Language) (customs : Customs) (abi : ContractAbi) :
    classifyEntryByEntry language customs abi = classify language customs abi := by
  rw [classifyEntryByEntry, classify, Progress.foldlM_next]
  simp only [Progress.foldlM_next, bind_assoc, pure_bind, Classification.ofBound_eq_enter]
  rfl

/-- The ABI of the bound entries and the constructor. -/
def ContractAbi.included (abi : ContractAbi) (customs : Customs) : ContractAbi :=
  { abi with functions := abi.boundFunctions customs, events := abi.boundEvents }

theorem ContractAbi.boundFunctions_included (abi : ContractAbi) (customs : Customs) :
    (abi.included customs).boundFunctions .empty = abi.boundFunctions customs :=
  List.filter_eq_self.mpr fun _ _ => rfl

theorem ContractAbi.boundEvents_included (abi : ContractAbi) (customs : Customs) :
    (abi.included customs).boundEvents = abi.boundEvents := by
  rw [boundEvents, included, boundEvents, List.filter_filter]
  simp

/-- **Entries that are left out have no influence**: passing over them when their turn comes gives
the same result and leaves the same registry as classifying without customizations what is left of
the ABI when they have been deleted, whatever registry there is to start with. -/
theorem run_classify_included (language : Language) (customs : Customs) (abi : ContractAbi)
    (before : StructRegistry) :
    (classifyEntryByEntry language customs abi).run before =
        (classify language customs abi).run before ∧
      (classify language customs abi).run before =
        (classify language .empty (abi.included customs)).run before := by
  constructor
  · rw [classifyEntryByEntry_eq]
  · rw [classify, classify, ContractAbi.boundFunctions_included, ContractAbi.boundEvents_included]
    rfl

end ContractBindings
