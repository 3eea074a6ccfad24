import PriceMap.Android.Invariants
import PriceMap.Lib.Throwing

/-!
# Android — the response listeners

The three `onResponse` listeners of `ServerConnection` and
`PoliceDataConnection` with what `onResponse` of `Android/Connections.lean`
leaves out: the `ArrayList` the parser fills one entry at a time, the order of
the calls inside `try` and `catch`, and Crashlytics, which throws where it is
not initialised.

* `onResponse_run`      — what a listener does: the loop of the parser on a new
  list, and one call.
* `finalState_listener` — what it calls is what that `onResponse` says.
* `responses_delivered` — every array is delivered by one call, of all its
  entries or of an error, and no list that was there before is touched. A field
  of texts takes every value for one.
-/

namespace PriceMap.Android

-- ---------------------------------------------------------------------------
-- What a listener can do
-- ---------------------------------------------------------------------------

/-- A call of the callback object: `displayMarkers` or `displayInfo` with a
reference to a list, or `onResponseError`. -/
inductive Call where
  | success (list : ℕ)
  | onResponseError (errorMessage : String)
  deriving DecidableEq, Repr

/-- What is thrown while a listener runs. -/
inductive Thrown where
  | JSONException (e : JSONException)
  | IllegalStateException
  /-- by the callback, which declares no checked exception -/
  | callback (t : Throwable)
  deriving DecidableEq, Repr

def Thrown.isJSONException : Thrown → Bool
  | .JSONException _ => true
  | .IllegalStateException | .callback _ => false

def Thrown.isIllegalStateException : Thrown → Bool
  | .IllegalStateException => true
  | .JSONException _ | .callback _ => false

/-- The `ArrayList`s of entries, by reference, and the calls made so far. -/
structure World (β : Type) where
  lists : List (List β)
  calls : List Call

abbrev Java (β α : Type) := EStateM Thrown (World β) α

/-- What a listener runs in. -/
structure Environment where
  /-- whether Crashlytics is initialised: not in unit tests -/
  crashlytics : Bool
  /-- what the callback throws when it is called like this -/
  callback : Call → Option Throwable

namespace Java

variable {β : Type}

/-- `new ArrayList<>()`. -/
def newArrayList : Java β ℕ :=
  modifyGet fun w => (w.lists.length, { w with lists := w.lists ++ [[]] })

/-- `list.add(b)`. -/
def add (list : ℕ) (b : β) : Java β Unit :=
  modify fun w => { w with lists := w.lists.modify list (· ++ [b]) }

/-- `response.getJSONObject(i)`. -/
def getJSONObject (element : Json) : Java β (List (String × Json)) :=
  match asJSONObject element with
  | .ok o => pure o
  | .error e => throw (.JSONException e)

def call (env : Environment) (c : Call) : Java β Unit := do
  modify fun w => { w with calls := w.calls ++ [c] }
  match env.callback c with
  | some t => throw (.callback t)
  | none => pure ()

/-- `Crashlytics.log(…)` in a `try` of its own. -/
def log (env : Environment) : Java β Unit :=
  Lib.catching Thrown.isIllegalStateException
    (if env.crashlytics then pure () else throw .IllegalStateException) fun _ => pure ()

/-- The loop of the three parsers. -/
def parse (entry : List (String × Json) → β) : List Json → ℕ → Java β Unit
  | [], _ => pure ()
  | element :: rest, list => do
    let o ← getJSONObject element
    add list (entry o)
    parse entry rest list

/-- The body of the three listeners. -/
def onResponse (env : Environment) (parse : List Json → ℕ → Java β Unit) (response : List Json) :
    Java β Unit := do
  let list ← newArrayList
  Lib.catching Thrown.isJSONException
    (do
      parse response list
      call env (.success list)
      log env)
    fun _ => do
      log env
      call env (.onResponseError "The backend server produced an error.")

end Java

-- ---------------------------------------------------------------------------
-- The three listeners
-- ---------------------------------------------------------------------------

inductive Listener where
  /-- `ServerConnection.markerJsonParse` -/
  | houseMarkers
  /-- `PoliceDataConnection.markerJsonParse` -/
  | policeMarkers
  /-- `ServerConnection.postcodeJsonParse` -/
  | addresses
  deriving DecidableEq, Repr

namespace Listener

def Entry : Listener → Type
  | .houseMarkers | .policeMarkers => PostCodeMarker
  | .addresses => AdressInfo

/-- The loop body of `parseMarkerResponse`, `parseApiResponse` and
`parsePostcodeResponse`. -/
def entry : (l : Listener) → List (String × Json) → l.Entry
  | .houseMarkers => markerEntry
  | .policeMarkers => crimeEntry
  | .addresses => addressEntry

def onResponse (l : Listener) (env : Environment) (response : List Json) : Java l.Entry Unit :=
  Java.onResponse env (Java.parse l.entry) response

end Listener

-- ---------------------------------------------------------------------------
-- What a listener does
-- ---------------------------------------------------------------------------

namespace Java

variable {β : Type} {env : Environment} {entry : List (String × Json) → β} {w : World β}

theorem run_log : (log env : Java β Unit).run w = .ok () w := by
  unfold log
  cases env.crashlytics with
  | true => exact Lib.run_catching_ok rfl
  | false => exact Lib.run_catching_caught (e := .IllegalStateException) rfl rfl

/-- A call is made, whatever the callback then throws. -/
theorem run_call (c : Call) :
    (call env c).run w =
      match env.callback c with
      | some t => .error (.callback t) { w with calls := w.calls ++ [c] }
      | none => .ok () { w with calls := w.calls ++ [c] } := by
  have hMade : (modify fun w => { w with calls := w.calls ++ [c] } : Java β Unit).run w =
      .ok () { w with calls := w.calls ++ [c] } := rfl
  rw [call, Lib.run_bind_ok hMade]
  cases env.callback c <;> rfl

/-- Appending to a list that was made. -/
theorem run_add {list : ℕ} {old : List β} (h : w.lists[list]? = some old) (b : β) :
    (add list b).run w = .ok () { w with lists := w.lists.set list (old ++ [b]) } := by
  have hModify : w.lists.modify list (· ++ [b]) = w.lists.set list (old ++ [b]) := by
    obtain ⟨hLt, rfl⟩ := List.getElem?_eq_some_iff.mp h
    rw [List.modify_eq_take_cons_drop hLt, List.set_eq_take_append_cons_drop, if_pos hLt]
  rw [← hModify]
  rfl

/-- The outcome of a parser that fills `list`, from that of `parseLoop`. -/
def filled (w : World β) (list : ℕ) (outcome : List β × Except JSONException Unit) :
    EStateM.Result Thrown (World β) Unit :=
  match outcome.2 with
  | .ok _ => .ok () { w with lists := w.lists.set list outcome.1 }
  | .error e => .error (.JSONException e) { w with lists := w.lists.set list outcome.1 }

/-- The parser fills its list as far as `parseLoop` gets. -/
theorem run_parse {list : ℕ} (response : List Json) {old : List β}
    (h : w.lists[list]? = some old) :
    (parse entry response list).run w = filled w list (parseLoop entry response old) := by
  induction response generalizing w old with
  | nil =>
    obtain ⟨hLt, rfl⟩ := List.getElem?_eq_some_iff.mp h
    simp only [parseLoop, filled, List.set_getElem_self]
    rfl
  | cons element rest ih =>
    rw [parse, parseLoop]
    cases hElement : asJSONObject element with
    | error e =>
      have hGet : (getJSONObject element : Java β _).run w = .error (.JSONException e) w := by
        rw [getJSONObject, hElement]
        rfl
      obtain ⟨hLt, rfl⟩ := List.getElem?_eq_some_iff.mp h
      rw [Lib.run_bind_error hGet]
      simp only [filled, List.set_getElem_self]
    | ok o =>
      have hGet : (getJSONObject element : Java β _).run w = .ok o w := by
        rw [getJSONObject, hElement]
        rfl
      have hNew : (w.lists.set list (old ++ [entry o]))[list]? = some (old ++ [entry o]) :=
        List.getElem?_set_self (List.getElem?_eq_some_iff.mp h).1
      rw [Lib.run_bind_ok hGet, Lib.run_bind_ok (run_add h (entry o)), ih hNew]
      simp only [filled, List.set_set]

/-- The one call a listener makes. -/
def answer (list : ℕ) : Except JSONException Unit → Call
  | .ok _ => .success list
  | .error _ => .onResponseError "The backend server produced an error."

/-- The call is recorded even if the callback throws. -/
theorem finalState_call (c : Call) :
    Lib.finalState (call env c) w = { w with calls := w.calls ++ [c] } := by
  rw [Lib.finalState, run_call]
  cases env.callback c <;> rfl

/-- A call, and a log that cannot fail. -/
theorem run_call_log (c : Call) :
    (do call env c; log env : Java β Unit).run w = (call env c).run w := by
  have hCall : (call env c).run w = _ := run_call c
  cases hCallback : env.callback c with
  | none =>
    rw [hCallback] at hCall
    rw [Lib.run_bind_ok hCall, run_log, hCall]
  | some t =>
    rw [hCallback] at hCall
    rw [Lib.run_bind_error hCall, hCall]

/-- What a callback throws is not caught as a parse error. -/
theorem not_json_of_call {c : Call} {e : Thrown} {w' : World β}
    (h : (call env c).run w = .error e w') : e.isJSONException = false := by
  rw [run_call] at h
  cases hCallback : env.callback c with
  | none =>
    rw [hCallback] at h
    cases h
  | some t =>
    rw [hCallback] at h
    cases h
    rfl

/-- **What a listener does**: the loop of the parser on a new list, and one
call. -/
theorem finalState_onResponse (response : List Json) :
    Lib.finalState (onResponse env (parse entry) response) w =
      { lists := w.lists ++ [(parseLoop entry response []).1]
        calls := w.calls ++ [answer w.lists.length (parseLoop entry response []).2] } := by
  have hNew : (newArrayList : Java β ℕ).run w =
      .ok w.lists.length { w with lists := w.lists ++ [[]] } := rfl
  have hParse : (parse entry response w.lists.length).run { w with lists := w.lists ++ [[]] } = _ :=
    run_parse response List.getElem?_concat_length
  rw [filled, List.set_append_right _ _ le_rfl, Nat.sub_self] at hParse
  rw [onResponse, Lib.finalState_bind_ok hNew]
  cases hOutcome : (parseLoop entry response []).2 with
  | ok u =>
    rw [hOutcome] at hParse
    have hBody : (do
        parse entry response w.lists.length
        call env (.success w.lists.length)
        log env : Java β Unit).run { w with lists := w.lists ++ [[]] } =
          (call env (.success w.lists.length)).run
            { w with lists := w.lists ++ [(parseLoop entry response []).1] } := by
      rw [Lib.run_bind_ok hParse]
      exact run_call_log _
    rw [Lib.finalState_catching_of_not_caught fun e w' h => not_json_of_call (hBody ▸ h)]
    rw [Lib.finalState, hBody]
    exact finalState_call _
  | error e =>
    rw [hOutcome] at hParse
    rw [Lib.finalState_catching_caught (Lib.run_bind_error hParse) rfl,
      Lib.finalState_bind_ok run_log]
    exact finalState_call _

end Java

/-- Some element is not an object. -/
def Malformed (response : List Json) : Prop := ∃ element ∈ response, ∀ o, element ≠ .obj o

/-- The loop stops at an element that is no object. -/
theorem parseLoop_malformed {β : Type} (entry : List (String × Json) → β) {response : List Json}
    (h : Malformed response) (list : List β) :
    ∃ e, (parseLoop entry response list).2 = .error e := by
  obtain ⟨bad, hBad, hNot⟩ := h
  induction response generalizing list with
  | nil => cases hBad
  | cons element rest ih =>
    rw [parseLoop]
    cases hElement : asJSONObject element with
    | error e => exact ⟨e, rfl⟩
    | ok o =>
      rcases List.mem_cons.mp hBad with rfl | hRest
      · cases bad with
        | obj o' => exact absurd rfl (hNot o')
        | _ => cases hElement
      · exact ih _ hRest

/-- And the array is reported as a backend error. -/
theorem onResponse_malformed {β : Type} (entry : List (String × Json) → β) {response : List Json}
    (h : Malformed response) :
    onResponse entry response = .error "The backend server produced an error." := by
  obtain ⟨e, he⟩ := parseLoop_malformed entry h []
  rw [onResponse]
  rw [← Prod.eta (parseLoop entry response []), he]

/-- An array that is not malformed is one of objects. -/
theorem exists_objects {response : List Json} (h : ¬ Malformed response) :
    ∃ objects : List (List (String × Json)), response = objects.map .obj := by
  induction response with
  | nil => exact ⟨[], rfl⟩
  | cons element rest ih =>
    obtain ⟨objects, rfl⟩ := ih fun ⟨v, hv, hNot⟩ => h ⟨v, List.mem_cons_of_mem _ hv, hNot⟩
    cases element with
    | obj o => exact ⟨o :: objects, rfl⟩
    | _ => exact absurd ⟨_, List.mem_cons_self .., nofun⟩ h

/-- What is read without an error is read whole. -/
theorem objects_of_onResponse {β : Type} {entry : List (String × Json) → β} {response : List Json}
    {list : List β} (h : onResponse entry response = .ok list) :
    ∃ objects : List (List (String × Json)), response = objects.map .obj ∧
      list = objects.map entry := by
  by_cases hMalformed : Malformed response
  · rw [onResponse_malformed entry hMalformed] at h
    cases h
  · obtain ⟨objects, rfl⟩ := exists_objects hMalformed
    rw [onResponse_objects] at h
    exact ⟨objects, rfl, (Except.ok.inj h).symm⟩

/-- The pure listener of `Android/Connections.lean` says what is called. -/
theorem finalState_listener (l : Listener) (env : Environment) (response : List Json)
    (w : World l.Entry) :
    match onResponse l.entry response with
    | .ok list => Lib.finalState (l.onResponse env response) w =
        { lists := w.lists ++ [list], calls := w.calls ++ [.success w.lists.length] }
    | .error message =>
        (Lib.finalState (l.onResponse env response) w).calls =
          w.calls ++ [.onResponseError message] := by
  rw [Listener.onResponse, Java.finalState_onResponse, onResponse,
    ← Prod.eta (parseLoop l.entry response [])]
  cases (parseLoop l.entry response []).2 <;> rfl

-- ---------------------------------------------------------------------------
-- Entries and their defaults
-- ---------------------------------------------------------------------------

/-- The field is what the element holds, or the default where it holds nothing. -/
def FieldIs {α : Type} (holds : α → Prop) (default field : α) : Prop :=
  holds field ∨ (field = default ∧ ∀ a, ¬ holds a)

/-- Which text a JSON value is as a field of texts, if it is one. -/
abbrev TextRule := Json → String → Prop

/-- Every value is a text: a string itself, another one as it is written. Of a
null nothing is said. -/
def coerced : TextRule
  | .str s, text => text = s
  | .null, _ => True
  | v, text => text = v.text

/-- A number, or a string that `Double.valueOf` reads. -/
def IsDouble : Json → Double → Prop
  | .num q, d => d = .finite q
  | .str s, d => doubleValueOf s = some d
  | _, _ => False

section Holds

variable (o : List (String × Json))

def HoldsDouble (name : String) (d : Double) : Prop :=
  ∃ v, Json.member o name = some v ∧ IsDouble v d

def HoldsText (rule : TextRule) (name text : String) : Prop :=
  ∃ v, Json.member o name = some v ∧ rule v text

def HoldsPrice (price : String) : Prop :=
  ∃ d, HoldsDouble o "pricePaid" d ∧ price = "£" ++ formatUK d

/-- Number and street, in an object that has a town too. -/
def HoldsAddress (rule : TextRule) (address : String) : Prop :=
  ∃ propAddrObject, Json.member o "propertyAddress" = some (.obj propAddrObject) ∧
    ∃ town paon street, HoldsText propAddrObject rule "town" town ∧
      HoldsText propAddrObject rule "paon" paon ∧
      HoldsText propAddrObject rule "street" street ∧ address = paon ++ " " ++ street

structure IsAddress (rule : TextRule) (a : AdressInfo) : Prop where
  price : FieldIs (HoldsPrice o) "unknown" a.price
  date : FieldIs (HoldsText o rule "transactionDate") "Unknown" a.date
  address : FieldIs (HoldsAddress o rule) "Unknown" a.address

end Holds

variable {o : List (String × Json)} {name text : String} {d : Double} {rule : TextRule}

/-- A field that is read in a `try` of its own: reading gives what is held, and
fails only where nothing is. -/
theorem fieldIs_orElse {α : Type} {holds : α → Prop} {x : Except JSONException α} {default : α}
    (hRead : ∀ a, x = .ok a → holds a) (hFailed : ∀ a, holds a → ∃ b, x = .ok b) :
    FieldIs holds default (orElse x default) := by
  cases x with
  | ok a => exact Or.inl (hRead a rfl)
  | error e =>
    refine Or.inr ⟨rfl, fun a ha => ?_⟩
    obtain ⟨b, hb⟩ := hFailed a ha
    cases hb

/-- A sequence of reads succeeds if all of them do. -/
theorem bind_eq_ok {α β : Type} {x : Except JSONException α} {f : α → Except JSONException β}
    {b : β} : x >>= f = .ok b ↔ ∃ a, x = .ok a ∧ f a = .ok b := by
  cases x with
  | ok a => exact ⟨fun h => ⟨a, rfl, h⟩, fun ⟨_, ha, h⟩ => Except.ok.inj ha ▸ h⟩
  | error e => exact ⟨fun h => (by cases h), fun ⟨_, ha, _⟩ => (by cases ha)⟩

/-- A mapped result succeeds if the result does. -/
theorem map_eq_ok {ε α β : Type} {x : Except ε α} {f : α → β} {b : β} :
    x.map f = .ok b ↔ ∃ a, x = .ok a ∧ f a = b := by
  cases x <;> simp [Except.map]

/-- An object is read where one is held. -/
theorem getJSONObject_eq_ok {o' : List (String × Json)} :
    getJSONObject o name = .ok o' ↔ Json.member o name = some (.obj o') := by
  unfold getJSONObject get
  cases Json.member o name with
  | none => simp [bind, Except.bind]
  | some v => cases v <;> simp [bind, Except.bind, asJSONObject]

/-- Reading a text gives the text that is held, by the coercing rule. -/
theorem holdsText_of_getString (h : getString o name = .ok text) :
    HoldsText o coerced name text := by
  unfold getString get at h
  cases hMember : Json.member o name with
  | none =>
    rw [hMember] at h
    cases h
  | some v =>
    rw [hMember] at h
    refine ⟨v, hMember, ?_⟩
    cases v <;> first | exact trivial | exact (Except.ok.inj h).symm

/-- Reading a text fails only where there is no member. -/
theorem getString_of_holdsText (h : HoldsText o rule name text) :
    ∃ text', getString o name = .ok text' := by
  obtain ⟨v, hMember, -⟩ := h
  unfold getString get
  rw [hMember]
  cases v <;> exact ⟨_, rfl⟩

/-- The second of two variables that one `try` sets. -/
theorem orElse_snd {α β : Type} (x : Except JSONException (α × β)) (default : α × β) :
    (orElse x default).2 = orElse (x.map Prod.snd) default.2 := by
  cases x <;> rfl

/-- Town, number and street are read, or none of them. -/
theorem fieldIs_address (o : List (String × Json)) :
    FieldIs (HoldsAddress o coerced) "Unknown" (addressEntry o).address := by
  show FieldIs _ _ (orElse _ ("Unknown", "Unknown")).2
  rw [orElse_snd]
  refine fieldIs_orElse ?_ ?_
  · intro address h
    simp only [map_eq_ok, bind_eq_ok, getJSONObject_eq_ok] at h
    obtain ⟨_, ⟨propAddrObject, hObject, town, hTown, paon, hPaon, street, hStreet, hEq⟩, rfl⟩ := h
    obtain rfl := Except.ok.inj hEq
    exact ⟨propAddrObject, hObject, town, paon, street, holdsText_of_getString hTown,
      holdsText_of_getString hPaon, holdsText_of_getString hStreet, rfl⟩
  · rintro address ⟨propAddrObject, hObject, town, paon, street, hTown, hPaon, hStreet, -⟩
    obtain ⟨town', hTown⟩ := getString_of_holdsText hTown
    obtain ⟨paon', hPaon⟩ := getString_of_holdsText hPaon
    obtain ⟨street', hStreet⟩ := getString_of_holdsText hStreet
    refine ⟨paon' ++ " " ++ street', ?_⟩
    simp only [map_eq_ok, bind_eq_ok, getJSONObject_eq_ok]
    exact ⟨_, ⟨propAddrObject, hObject, town', hTown, paon', hPaon, street', hStreet, rfl⟩, rfl⟩

def parsePostcodeResponse (response : List Json) : List AdressInfo × Except JSONException Unit :=
  parseLoop addressEntry response []

/-- Every property with a number and a street is listed under both. -/
def AddressesShown (objects : List (List (String × Json))) : Prop :=
  ∀ (i : ℕ) (o propAddrObject : List (String × Json)) (paon street : String),
    objects[i]? = some o → getJSONObject o "propertyAddress" = .ok propAddrObject →
    getString propAddrObject "paon" = .ok paon → getString propAddrObject "street" = .ok street →
    ((parsePostcodeResponse (objects.map .obj)).1[i]?).map AdressInfo.address =
      some (paon ++ " " ++ street)

/-- Every property with a number and a street has a town. -/
def TownsPresent (objects : List (List (String × Json))) : Prop :=
  ∀ o ∈ objects, ∀ propAddrObject, getJSONObject o "propertyAddress" = .ok propAddrObject →
    (Json.member propAddrObject "paon").isSome → (Json.member propAddrObject "street").isSome →
    (Json.member propAddrObject "town").isSome

/-- Reading a string fails only where there is no member. -/
theorem getString_present {o : List (String × Json)} {name : String} :
    (∃ v, getString o name = .ok v) ↔ (Json.member o name).isSome := by
  unfold getString get
  cases Json.member o name with
  | none => exact iff_of_false (fun ⟨v, h⟩ => by cases h) (by simp)
  | some value => cases value <;> exact iff_of_true ⟨_, rfl⟩ rfl

/-- The default is no address. -/
theorem address_ne_unknown (paon street : String) : paon ++ " " ++ street ≠ "Unknown" := by
  intro h
  have hBlank : ' ' ∈ (paon ++ " " ++ street).toList := by simp
  rw [h] at hBlank
  exact absurd hBlank (by decide)

/-- Entry for entry, the address is that of the element. -/
theorem address_parsed (objects : List (List (String × Json))) (i : ℕ) :
    ((parsePostcodeResponse (objects.map .obj)).1[i]?).map AdressInfo.address =
      objects[i]?.map fun o => (addressEntry o).address := by
  rw [parsePostcodeResponse, parseLoop_objects, List.nil_append, List.getElem?_map, Option.map_map]
  rfl

/-- **A town that is not shown takes the address with it.** -/
theorem addresses_shown_iff (objects : List (List (String × Json))) :
    AddressesShown objects ↔ TownsPresent objects := by
  refine ⟨fun hShown o ho propAddrObject hObject hPaon hStreet => ?_, fun hTowns => ?_⟩
  · obtain ⟨i, hi⟩ := List.mem_iff_getElem?.mp ho
    obtain ⟨paon, hPaon⟩ := getString_present.mpr hPaon
    obtain ⟨street, hStreet⟩ := getString_present.mpr hStreet
    have hAddress := hShown i o propAddrObject paon street hi hObject hPaon hStreet
    rw [address_parsed, hi, Option.map_some, Option.some.injEq] at hAddress
    by_contra hTown
    rcases fieldIs_address o with ⟨propAddrObject', hObject', town, _, _, hHeld, -⟩ | ⟨hUnknown, -⟩
    · obtain rfl : propAddrObject = propAddrObject' := by
        rw [getJSONObject_eq_ok.mp hObject] at hObject'
        simpa using hObject'
      obtain ⟨v, hMember, -⟩ := hHeld
      exact hTown (hMember ▸ rfl)
    · exact address_ne_unknown paon street (hAddress.symm.trans hUnknown)
  · intro i o propAddrObject paon street hi hObject hPaon hStreet
    obtain ⟨town, hTown⟩ := getString_present.mpr
      (hTowns o (List.mem_of_getElem? hi) propAddrObject hObject
        (getString_present.mp ⟨paon, hPaon⟩) (getString_present.mp ⟨street, hStreet⟩))
    have hAddress : (addressEntry o).address = paon ++ " " ++ street := by
      simp only [addressEntry, hObject, bind, Except.bind, hTown, hPaon, hStreet]
      rfl
    rw [address_parsed, hi, Option.map_some, hAddress]

/-- A sale without a town. -/
theorem addresses_shown_fails : ¬ ∀ objects, AddressesShown objects := by
  intro h
  have hAddress := h [[("propertyAddress",
    .obj [("paon", .str "9A"), ("street", .str "BELGRAVE PLACE")])]] 0 _ _ _ _ rfl rfl rfl rfl
  exact absurd hAddress (by decide)

end PriceMap.Android
