import PriceMap.Android.Connections
import PriceMap.Backend.Brackets
import PriceMap.Backend.Routes
import PriceMap.Common.Doubles

/-!
# The requests between the apps and the backend

Both apps write the numbers of a price request into the path, each the way its
language shows a number. The backend reads latitude and longitude with
`parseFloat` and leaves the radius to the conversions of comparison and
multiplication.

* `get_pricesPath` — from either app, the numbers of the path are the numbers
  the database is searched with.
* `get_addressesPath` — a postcode whose spaces are escaped is looked up as it is.
-/

namespace PriceMap.Wire

open Backend

-- ---------------------------------------------------------------------------
-- A numeral on the server
-- ---------------------------------------------------------------------------

variable {s : String} {q : ℚ} {c : Char}

/-- The codes of the characters of numerals. -/
theorem toNat_of_numeralChar (h : NumeralChar c) :
    c.toNat ∈ [43, 45, 46, 48, 49, 50, 51, 52, 53, 54, 55, 56, 57, 69, 101] := by
  rcases h with hDigit | hOther
  · have hBounds : 48 ≤ c.toNat ∧ c.toNat ≤ 57 := by
      simpa [Char.isDigit, UInt32.le_iff_toNat_le] using hDigit
    obtain ⟨hLow, hHigh⟩ := hBounds
    interval_cases c.toNat <;> decide
  · simp only [List.mem_cons, List.not_mem_nil, or_false] at hOther
    rcases hOther with rfl | rfl | rfl | rfl | rfl <;> decide

/-- They are no white space. -/
theorem whiteSpace_of_numeralChar (h : NumeralChar c) : whiteSpace c = false := by
  have hCode := toNat_of_numeralChar h
  unfold whiteSpace
  generalize c.toNat = n at hCode
  simp only [List.mem_cons, List.not_mem_nil, or_false] at hCode
  rcases hCode with rfl | rfl | rfl | rfl | rfl | rfl | rfl | rfl | rfl | rfl | rfl | rfl | rfl |
    rfl | rfl <;> rfl

/-- They are no others. -/
theorem ne_of_numeralChar {d : Char} (h : NumeralChar c)
    (hd : d.toNat ∉ [43, 45, 46, 48, 49, 50, 51, 52, 53, 54, 55, 56, 57, 69, 101]) : c ≠ d := by
  rintro rfl
  exact hd (toNat_of_numeralChar h)

/-- `parseFloat` reads a numeral as it stands. -/
theorem parseFloatOfString_eq (h : parseDecimal s = some q) : parseFloatOfString s = .finite q := by
  obtain ⟨hne, hChars⟩ := chars_of_parseDecimal h
  have hTrim : s.toList.dropWhile whiteSpace = s.toList := by
    obtain ⟨c, rest, hCons⟩ := List.exists_cons_of_ne_nil hne
    have hFirst : whiteSpace c = false :=
      whiteSpace_of_numeralChar (hChars c (hCons ▸ List.mem_cons_self ..))
    rw [hCons, List.dropWhile_cons_of_neg (by simp [hFirst])]
  have hWhole : numeralValue s.toList = some (.finite q) := by
    rw [numeralValue, String.ofList_toList, h]
  have hLongest : s.toList.inits.reverse = s.toList :: s.toList.inits.reverse.tail := by
    rw [List.inits_eq_tails, List.reverse_reverse]
    cases hRev : s.toList.reverse with
    | nil => exact absurd (List.reverse_eq_nil_iff.mp hRev) hne
    | cons c rest =>
      rw [List.tails_cons, List.map_cons, List.tail_cons, ← hRev, List.reverse_reverse]
  rw [parseFloatOfString, hTrim, hLongest, List.findSome?_cons, hWhole]
  rfl

/-- So does the conversion of a comparison. -/
theorem numberOfString_eq (h : parseDecimal s = some q) : numberOfString s = .finite q := by
  obtain ⟨hne, hChars⟩ := chars_of_parseDecimal h
  have hTrim : (s.toList.dropWhile whiteSpace).rdropWhile whiteSpace = s.toList := by
    have hNone : ∀ cs : List Char, (∀ c ∈ cs, NumeralChar c) → cs.dropWhile whiteSpace = cs := by
      intro cs hcs
      cases cs with
      | nil => rfl
      | cons c rest =>
        have hFirst := whiteSpace_of_numeralChar (hcs c (List.mem_cons_self ..))
        rw [List.dropWhile_cons_of_neg (by simp [hFirst])]
    rw [hNone _ hChars, List.rdropWhile, hNone _ fun c hc => hChars c (List.mem_reverse.mp hc),
      List.reverse_reverse]
  rw [← String.ofList_toList (s := s)] at h
  unfold numberOfString
  rw [hTrim]
  generalize s.toList = cs at h hne hChars
  -- no letter of a base, no name of an infinity
  have hBase : ∀ d ∈ ['x', 'X', 'o', 'O', 'b', 'B'], ∀ ds, cs ≠ '0' :: d :: ds := by
    rintro d hd ds rfl
    refine ne_of_numeralChar (hChars d (by simp)) ?_ rfl
    simp only [List.mem_cons, List.not_mem_nil, or_false] at hd
    rcases hd with rfl | rfl | rfl | rfl | rfl | rfl <;> decide
  dsimp only
  split
  · next value q' hValue =>
    split at hValue
    any_goals exact absurd rfl (hBase _ (by decide) _)
    · exact absurd rfl hne
    · rw [h] at hValue
      rw [Option.some.inj hValue]
  · next value hValue =>
    split at hValue
    any_goals exact absurd rfl (hBase _ (by decide) _)
    · exact absurd rfl hne
    · rw [h] at hValue
      cases hValue

-- ---------------------------------------------------------------------------
-- Spaces
-- ---------------------------------------------------------------------------

/-- `replaceAll(" ", "%20")`. -/
def escapeSpaces (cs : List Char) : List Char :=
  cs.flatMap fun c => if c = ' ' then ['%', '2', '0'] else [c]

theorem escapeSpaces_cons (c : Char) (cs : List Char) :
    escapeSpaces (c :: cs) = (if c = ' ' then ['%', '2', '0'] else [c]) ++ escapeSpaces cs :=
  List.flatMap_cons ..

/-- Where there is no blank nothing is escaped. -/
theorem escapeSpaces_eq_self {cs : List Char} (h : ' ' ∉ cs) : escapeSpaces cs = cs := by
  induction cs with
  | nil => rfl
  | cons c rest ih =>
    obtain ⟨hc, hRest⟩ := not_or.mp (List.mem_cons.not.mp h)
    rw [escapeSpaces_cons, if_neg (Ne.symm hc), ih hRest]
    rfl

/-- An escaped blank is decoded. -/
theorem decodeFrom_space (n : ℕ) (cs : List Char) :
    decodeFrom (n + 1) ('%' :: '2' :: '0' :: cs) = (decodeFrom n cs).map (' ' :: ·) := by
  have hByte : hexByte '2' '0' = some 0x20 := by decide
  have hSpace : escaped 0x20 cs = some (' ', cs) := rfl
  simp only [decodeFrom, hByte, hSpace, Option.bind_eq_bind, Option.bind_some]
  cases decodeFrom n cs <;> rfl

/-- Escaped blanks are decoded, however many. -/
theorem decodeFrom_escapeSpaces {cs : List Char} (h : '%' ∉ cs) {n : ℕ}
    (hn : (escapeSpaces cs).length ≤ n) : decodeFrom n (escapeSpaces cs) = some cs := by
  induction cs generalizing n with
  | nil => cases n <;> rfl
  | cons c rest ih =>
    obtain ⟨hc, hRest⟩ := not_or.mp (List.mem_cons.not.mp h)
    rw [escapeSpaces_cons] at hn ⊢
    split_ifs at hn ⊢ with hSpace
    · simp only [List.length_append, List.length_cons, List.length_nil] at hn
      obtain ⟨k, rfl⟩ : ∃ k, n = k + 1 := ⟨n - 1, by omega⟩
      rw [hSpace, List.cons_append, List.cons_append, List.cons_append, List.nil_append,
        decodeFrom_space, ih hRest (by omega)]
      rfl
    · simp only [List.length_append, List.length_cons, List.length_nil] at hn
      obtain ⟨k, rfl⟩ : ∃ k, n = k + 1 := ⟨n - 1, by omega⟩
      rw [List.singleton_append, decodeFrom_cons (Ne.symm hc), ih hRest (by omega)]
      rfl

/-- A text that an app may put into a path once its spaces are escaped. -/
structure Literal (s : String) : Prop where
  nonempty : s.toList ≠ []
  chars : ∀ c ∈ s.toList, c = ' ' ∨ (pathChar c = true ∧ c ≠ '%')

/-- A segment with escaped spaces and nothing else to decode. -/
theorem carries_escapeSpaces (h : Literal s) : Carries (escapeSpaces s.toList) s := by
  have hPercent : '%' ∉ s.toList := by
    intro hMem
    rcases h.chars _ hMem with hSpace | ⟨-, hNot⟩
    · exact absurd hSpace (by decide)
    · exact hNot rfl
  refine ⟨?_, ?_, ?_⟩
  · obtain ⟨c, rest, hCons⟩ := List.exists_cons_of_ne_nil h.nonempty
    rw [hCons, escapeSpaces_cons]
    split_ifs <;> simp
  · intro c hMem
    obtain ⟨d, hd, hIn⟩ := List.mem_flatMap.mp hMem
    split_ifs at hIn with hSpace
    · exact List.all_eq_true.mp (by decide : ['%', '2', '0'].all pathChar = true) c hIn
    · obtain rfl := List.mem_singleton.mp hIn
      exact ((h.chars c hd).resolve_left hSpace).1
  · rw [decodeURIComponent, decodeFrom_escapeSpaces hPercent le_rfl, Option.map_some,
      String.ofList_toList]

/-- The characters of numerals may stand in a path. -/
theorem pathChar_of_numeralChar (h : NumeralChar c) : pathChar c = true := by
  rcases h with hDigit | hOther
  · simp [pathChar, Char.isAlphanum, hDigit]
  · simp only [List.mem_cons, List.not_mem_nil, or_false] at hOther
    rcases hOther with rfl | rfl | rfl | rfl | rfl <;> decide

/-- A numeral needs no escape in a path. -/
theorem carries_numeral (h : parseDecimal s = some q) : Carries s.toList s := by
  obtain ⟨hne, hChars⟩ := chars_of_parseDecimal h
  have hSpace : ' ' ∉ s.toList := fun hMem => ne_of_numeralChar (hChars _ hMem) (by decide) rfl
  have hCarries := carries_escapeSpaces ⟨hne, fun c hc =>
    Or.inr ⟨pathChar_of_numeralChar (hChars c hc), ne_of_numeralChar (hChars c hc) (by decide)⟩⟩
  rwa [escapeSpaces_eq_self hSpace] at hCarries

-- ---------------------------------------------------------------------------
-- A price request
-- ---------------------------------------------------------------------------

/-- The number that a text made of `q` shows. -/
def shown (q : ℚ) : ℚ := (Decimal.ofRat q).value

/-- The path of a price request, from the texts of its numbers. -/
def pricesPath (lat long radius : String) : String :=
  "/api/" ++ "pcprices/" ++ lat ++ "/" ++ long ++ "/" ++ radius

/-- The path in segments. -/
theorem pricesPath_eq (lat long radius : String) :
    pricesPath lat long radius =
      pathOf ["pcprices".toList, lat.toList, long.toList, radius.toList] := by
  rw [← String.toList_inj, pathOf, String.toList_ofList]
  simp [pricesPath]

variable {ε : Type*}

/-- The answer of the backend for a point and a radius: one query of the level of
the radius, one record for each document. -/
noncomputable def pricesAround (models : Models ℝ ε) (lat long radius : ℚ) : Response :=
  let lookup := level (some (.finite (radius : ℝ)))
  match models lookup (lookup.bracketAt lat long radius) with
  | .ok documents => ⟨200, .json (.arr (documents.map priceRecord))⟩
  | .error _ => ⟨500, .message "Error getting prices"⟩

/-- The documents that are found around a point. -/
def FindsAround (models : Models ℝ ε) (lat long radius : ℚ)
    (documents : List (Document Decimal)) : Prop :=
  let lookup := level (some (.finite (radius : ℝ)))
  models lookup (lookup.bracketAt lat long radius) = .ok documents

/-- Documents that are found are sent. -/
theorem pricesAround_of_finds {models : Models ℝ ε} {lat long radius : ℚ}
    {documents : List (Document Decimal)} (h : FindsAround models lat long radius documents) :
    pricesAround models lat long radius = ⟨200, .json (.arr (documents.map priceRecord))⟩ := by
  unfold FindsAround at h
  dsimp only at h
  simp only [pricesAround, h]

/-- The answer is the documents found, or an error. -/
theorem pricesAround_eq (models : Models ℝ ε) (lat long radius : ℚ) :
    (∃ documents, FindsAround models lat long radius documents ∧
      pricesAround models lat long radius = ⟨200, .json (.arr (documents.map priceRecord))⟩) ∨
    pricesAround models lat long radius = ⟨500, .message "Error getting prices"⟩ := by
  cases hModels : models (level (some (.finite (radius : ℝ))))
      ((level (some (.finite (radius : ℝ)))).bracketAt lat long radius) with
  | ok documents => exact Or.inl ⟨documents, hModels, pricesAround_of_finds hModels⟩
  | error e => exact Or.inr (by simp only [pricesAround, hModels])

/-- Texts that parse ask for their numbers. -/
theorem respond_numerals (models : Models ℝ ε) {lat long radius : String} {x y r : ℚ}
    (hLat : parseDecimal lat = some x) (hLong : parseDecimal long = some y)
    (hRadius : parseDecimal radius = some r) :
    respond models ⟨lat, long, some radius⟩ = pricesAround models x y r := by
  have hToRadius : PricesParams.toRadius ⟨lat, long, some radius⟩ = some (.finite (r : ℝ)) := by
    rw [PricesParams.toRadius, Option.map_some, numberOfString_eq hRadius]
    rfl
  have hSearched : PricesParams.searched ⟨lat, long, some radius⟩ =
      (level (some (.finite (r : ℝ)))).bracketAt x y r := by
    rw [PricesParams.searched, latNumber_eq (parseFloatOfString_eq hLat),
      longNumber_eq (parseFloatOfString_eq hLong), hToRadius]
    rfl
  rw [respond_eq, hSearched, hToRadius]
  rfl

/-- Whatever the layout of the three numbers. -/
theorem get_numerals (server : Server ε) {lat long radius : String} {x y r : ℚ}
    (hLat : parseDecimal lat = some x) (hLong : parseDecimal long = some y)
    (hRadius : parseDecimal radius = some r) :
    server.get (pricesPath lat long radius) = .ok (pricesAround server.models x y r) := by
  rw [pricesPath_eq, get_pcprices server (carries_numeral hLat) (carries_numeral hLong)
    (carries_numeral hRadius), respond_numerals server.models hLat hLong hRadius]

/-- **The numbers arrive.** Both apps get the answer for the very point and
radius they show, however large, small or negative. -/
theorem get_pricesPath (server : Server ε) (lat long radius : Decimal) :
    server.get (pricesPath lat.javaText long.javaText radius.javaText) =
        .ok (pricesAround server.models lat.value long.value radius.value) ∧
      server.get (pricesPath lat.swiftText long.swiftText radius.swiftText) =
        .ok (pricesAround server.models lat.value long.value radius.value) := by
  refine ⟨?_, ?_⟩
  · exact get_numerals server lat.parseDecimal_javaText long.parseDecimal_javaText
      radius.parseDecimal_javaText
  · exact get_numerals server lat.parseDecimal_swiftText long.parseDecimal_swiftText
      radius.parseDecimal_swiftText

-- ---------------------------------------------------------------------------
-- A request for addresses
-- ---------------------------------------------------------------------------

/-- The path of a request for the addresses of a postcode. -/
def addressesPath (postcode : String) : String :=
  "/api/" ++ "addresses/" ++ String.ofList (escapeSpaces postcode.toList)

/-- **The postcode arrives.** -/
theorem get_addressesPath (server : Server ε) {postcode : String} (h : Literal postcode) :
    server.get (addressesPath postcode) =
      .ok (ApiController.getPostcodeData server.node (some postcode)) := by
  have hPath : addressesPath postcode =
      pathOf ["addresses".toList, escapeSpaces postcode.toList] := by
    rw [← String.toList_inj, pathOf, String.toList_ofList]
    simp [addressesPath]
  rw [hPath]
  exact get_addresses server (carries_escapeSpaces h)

end PriceMap.Wire
