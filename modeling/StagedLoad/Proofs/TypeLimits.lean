import StagedLoad.Sql.ColumnType
import StagedLoad.Text.Numeral
import StagedLoad.Text.Split

/-!
# Types within the limits of the products

The type of a column is found by rules, the first one that fits.  Most of them are for one type name
each; where none fits, the standard rule writes the type, but with the forms of the product.

* `parametrized_inj` : a type name without parentheses can be told from its parameters.
* `Product.typeRule_columnType` : which rules there are, and what they write.
* `columnType_within_limits` : no size above a limit is written, and apart from the special types
  the text is that of the standard rule.
-/

namespace StagedLoad

/-! ## Types with parameters -/

/-- A type with its parameters. -/
def parametrized (type parameters : Text) : Text := type ++ "(" ++ parameters ++ ")"

/-- A type with a size. -/
def withSize (type : Text) (size : Int) : Text := parametrized type (toString size)

/-- A type with a size and a scale. -/
def withScale (type : Text) (size scale : Int) : Text :=
  parametrized type (toString size ++ "," ++ toString scale)

/-- The opening parenthesis, behind which the parameters of a type stand. -/
def opening : Symbol := .char '('

/-- The parameters stand behind the first parenthesis. -/
theorem parametrized_eq (type parameters : Text) :
    parametrized type parameters = type ++ opening :: (parameters ++ ")") := by
  simp [parametrized, opening, Text.ofString, Text.ofChars]

theorem opening_mem_parametrized (type parameters : Text) :
    opening ∈ parametrized type parameters := by
  rw [parametrized_eq]
  exact List.mem_append_right _ List.mem_cons_self

/-- **A type can be told from its parameters** if its name has no parenthesis. -/
theorem parametrized_inj {type type' parameters parameters' : Text} (h : opening ∉ type)
    (h' : opening ∉ type') (heq : parametrized type parameters = parametrized type' parameters') :
    type = type' ∧ parameters = parameters' := by
  rw [parametrized_eq, parametrized_eq] at heq
  -- The name is what stands before the first parenthesis, so both texts are split there.
  have hparts := congrArg (partsOf opening) heq
  rw [partsOf_append_mark h, partsOf_append_mark h'] at hparts
  obtain rfl := (List.cons.inj hparts).1
  have hrest := (List.cons.inj (List.append_cancel_left heq)).2
  exact ⟨rfl, List.append_cancel_right hrest⟩

/-- Numbers are told apart by their numerals. -/
theorem toString_inj {m n : Int} :
    Text.ofString (toString m) = Text.ofString (toString n) ↔ m = n := by
  exact ⟨fun h => eq_of_toString (Text.ofString_inj h), fun h => h ▸ rfl⟩

/-- A text with a symbol that is neither a digit nor a sign is no numeral. -/
theorem toString_ne_of_mem {t : Text} {c : Char} (hc : .char c ∈ t) (hsign : c ≠ '-')
    (hdigit : c.isDigit = false) (n : Int) : t ≠ Text.ofString (toString n) := by
  rintro rfl
  obtain ⟨d, hd, hsame⟩ := List.mem_map.mp hc
  obtain rfl := Symbol.char.inj hsame
  rcases mem_toString hd with h | h
  · exact hsign h
  · cases hdigit.symm.trans h

/-! ## The rules -/

/-- The types with a greatest size, and that size. -/
def sizeLimits : List (Text × Int) := [("VARCHAR", 8000), ("NVARCHAR", 4000)]

/-- The size is above the limit of the type. -/
def Column.IsOversized (c : Column) : Prop := ∃ l ∈ sizeLimits, c.typeName = l.1 ∧ l.2 < c.size

/-- **The rules for the type of a column**, each with what it writes. -/
inductive Product.TypeRule (p : Product) (c : Column) : Text → Prop where
  | boolean (h : c.typeName = "BOOLEAN") : TypeRule p c "BIT"
  | largeText (h : c.typeName = "CLOB") (hp : p = .sqlServer) :
      TypeRule p c (parametrized "NVARCHAR" "max")
  | boundedText (h : c.typeName = "CLOB") (hp : p = .synapse) :
      TypeRule p c (withSize "NVARCHAR" 4000)
  | timestamp (h : c.typeName = "TIMESTAMP") : TypeRule p c "DATETIME2"
  | oversized (h : c.IsOversized) : TypeRule p c (parametrized "VARCHAR" "max")
  | standard (hspecial : c.typeName ≠ "BOOLEAN" ∧ c.typeName ≠ "CLOB" ∧ c.typeName ≠ "TIMESTAMP")
      (hsize : ¬ c.IsOversized) : TypeRule p c (c.typeIn (productForm c.typeName c))

/-- **What a product writes is by its rules.** -/
theorem Product.typeRule_columnType (p : Product) (c : Column) :
    p.TypeRule c (p.columnType c) := by
  unfold columnType
  split
  · next h => exact .boolean h
  split
  · next h =>
    cases p with
    | sqlServer => exact .largeText h rfl
    | synapse => exact .boundedText h rfl
  split
  · next h => exact .timestamp h
  next hboolean hclob htimestamp =>
  simp only [Bool.and_eq_true, decide_eq_true_eq]
  split
  · next h => exact .oversized ⟨_, .tail _ (.head _), h⟩
  split
  · next h => exact .oversized ⟨_, .head _, h⟩
  · next hnational htext =>
    refine .standard ⟨hboolean, hclob, htimestamp⟩ ?_
    simp only [Column.IsOversized, sizeLimits, List.mem_cons, List.not_mem_nil, or_false]
    rintro ⟨l, rfl | rfl, h⟩
    · exact htext h
    · exact hnational h

/-- A size and a scale between parentheses, written from left to right. -/
theorem withScale_eq (type : Text) (size scale : Int) :
    withScale type size scale =
      type ++ "(" ++ toString size ++ "," ++ toString scale ++ ")" := by
  simp only [withScale, parametrized, List.append_assoc]

/-- Where a size and a scale are asked for, a negative scale is none. -/
theorem Column.typeIn_sizeAndScale (c : Column) :
    c.typeIn .sizeAndScale = withScale c.typeName c.size (max c.scale 0) := by
  have hzero : Text.ofString ",0)" = "," ++ toString (0 : Int) ++ ")" := rfl
  rw [typeIn, withScale_eq]
  split
  · next h =>
    rw [Int.max_eq_right (Int.le_of_lt h), hzero]
    simp only [List.append_assoc]
  · next h => rw [Int.max_eq_left (Int.not_lt.mp h)]

/-- Whatever the form, the parameters of a type are its size, and perhaps a scale. -/
theorem Column.typeIn_cases (c : Column) (form : DeclareForm) :
    c.typeIn form = c.typeName ∨ c.typeIn form = withSize c.typeName c.size ∨
      ∃ scale, c.typeIn form = withScale c.typeName c.size scale := by
  cases form with
  | simple => exact .inl rfl
  | size => exact .inr (.inl rfl)
  | sizeAndScale => exact .inr (.inr ⟨_, c.typeIn_sizeAndScale⟩)
  | sizeAndOptionalScale =>
    rw [typeIn]
    split
    · exact .inr (.inl rfl)
    · exact .inr (.inr ⟨c.scale, (withScale_eq _ _ _).symm⟩)

/-- **Where parameters can come from**: two fixed texts, `max` in place of a size above the limits,
and else the size of the column behind its own type name. -/
theorem Product.TypeRule.parameters {p : Product} {c : Column} {t type parameters : Text}
    (h : p.TypeRule c t) (ht : t = parametrized type parameters) (hname : opening ∉ c.typeName)
    (htype : opening ∉ type) :
    (type = "NVARCHAR" ∧ parameters = "max" ∧ p = .sqlServer) ∨
    (type = "NVARCHAR" ∧ parameters = toString (4000 : Int)) ∨
    (type = "VARCHAR" ∧ parameters = "max") ∨
    (type = c.typeName ∧ ¬ c.IsOversized ∧ (parameters = toString c.size ∨
      ∃ scale : Int, parameters = toString c.size ++ "," ++ toString scale)) := by
  have hplain : ∀ {t : Text}, opening ∉ t → t ≠ parametrized type parameters :=
    fun hopening heq => hopening (heq ▸ opening_mem_parametrized _ _)
  have hsame : ∀ {type' parameters' : Text}, opening ∉ type' →
      parametrized type' parameters' = parametrized type parameters →
      type = type' ∧ parameters = parameters' :=
    fun hopening heq => parametrized_inj htype hopening heq.symm
  cases h with
  | boolean h => exact absurd ht (hplain (by decide))
  | timestamp h => exact absurd ht (hplain (by decide))
  | largeText h hp =>
    obtain ⟨h₁, h₂⟩ := hsame (by decide) ht
    exact .inl ⟨h₁, h₂, hp⟩
  | boundedText h hp => exact .inr (.inl (hsame (by decide) ht))
  | oversized h => exact .inr (.inr (.inl (hsame (by decide) ht)))
  | standard hspecial hsize =>
    rcases c.typeIn_cases (productForm c.typeName c) with hform | hform | ⟨scale, hform⟩
    · exact absurd (hform.symm.trans ht) (hplain hname)
    · obtain ⟨h₁, h₂⟩ := hsame hname (hform.symm.trans ht)
      exact .inr (.inr (.inr ⟨h₁, hsize, .inl h₂⟩))
    · obtain ⟨h₁, h₂⟩ := hsame hname (hform.symm.trans ht)
      exact .inr (.inr (.inr ⟨h₁, hsize, .inr ⟨scale, h₂⟩⟩))

/-! ## What the rules come to -/

section

variable {p : Product} {c : Column} {t : Text}

/-- A type with a limit keeps a size that is not above it, and no other. -/
theorem Product.TypeRule.of_limited (h : p.TypeRule c t) {l : Text × Int} (hl : l ∈ sizeLimits)
    (hname : c.typeName = l.1) :
    t = if c.size ≤ l.2 then withSize l.1 c.size else parametrized "VARCHAR" "max" := by
  have hspecial : ∀ l ∈ sizeLimits, l.1 ≠ "BOOLEAN" ∧ l.1 ≠ "CLOB" ∧ l.1 ≠ "TIMESTAMP" := by
    decide
  obtain ⟨hboolean, hclob, htimestamp⟩ := hspecial l hl
  have hform : productForm l.1 c = .size := by
    simp only [sizeLimits, List.mem_cons, List.not_mem_nil, or_false] at hl
    rcases hl with rfl | rfl <;> rfl
  -- The type has this limit only, for no name is there twice.
  have hlimit : c.IsOversized ↔ l.2 < c.size := by
    refine ⟨?_, fun hsize => ⟨l, hl, hname, hsize⟩⟩
    rintro ⟨l', hl', hname', hsize⟩
    have hsame : ∀ l ∈ sizeLimits, ∀ l' ∈ sizeLimits, l.1 = l'.1 → l = l' := by decide
    rwa [hsame l hl l' hl' (hname.symm.trans hname')]
  cases h with
  | boolean h => exact absurd (hname.symm.trans h) hboolean
  | largeText h _ => exact absurd (hname.symm.trans h) hclob
  | boundedText h _ => exact absurd (hname.symm.trans h) hclob
  | timestamp h => exact absurd (hname.symm.trans h) htimestamp
  | oversized h => rw [if_neg (Int.not_le.mpr (hlimit.mp h))]
  | standard _ hsize =>
    rw [if_pos (Int.not_lt.mp (mt hlimit.mpr hsize)), hname, hform, ← hname]
    rfl

/-- **No size above a limit is written**, whatever the type of the column is. -/
theorem Product.TypeRule.size_le (h : p.TypeRule c t) (hname : opening ∉ c.typeName)
    {l : Text × Int} (hl : l ∈ sizeLimits) {n : Int} (ht : t = withSize l.1 n) : n ≤ l.2 := by
  have hplain : ∀ l ∈ sizeLimits, opening ∉ l.1 := by decide
  have hmax : ("max" : Text) ≠ toString n :=
    toString_ne_of_mem (c := 'm') (by decide) (by decide) rfl n
  rcases h.parameters ht hname (hplain l hl) with
    ⟨_, h, _⟩ | ⟨htype, h⟩ | ⟨_, h⟩ | ⟨htype, hsize, h⟩
  · exact absurd h.symm hmax
  · have hbound : ∀ l ∈ sizeLimits, l.1 = "NVARCHAR" → (4000 : Int) ≤ l.2 := by decide
    rw [toString_inj.mp h]
    exact hbound l hl htype
  · exact absurd h.symm hmax
  · rcases h with h | ⟨scale, h⟩
    · rw [toString_inj.mp h]
      exact Int.not_lt.mp fun hlarge => hsize ⟨l, hl, htype.symm, hlarge⟩
    · exact absurd h.symm (toString_ne_of_mem (c := ',') (by simp [Text.ofString, Text.ofChars])
        (by decide) rfl n)

/-- **Synapse is never asked for unlimited national text.** -/
theorem Product.TypeRule.ne_largeText (h : Product.TypeRule .synapse c t)
    (hname : opening ∉ c.typeName) : t ≠ parametrized "NVARCHAR" "max" := by
  intro ht
  have hnumeral : ∀ n : Int, ("max" : Text) ≠ toString n :=
    toString_ne_of_mem (c := 'm') (by decide) (by decide) rfl
  rcases h.parameters ht hname (by decide) with ⟨_, _, h⟩ | ⟨_, h⟩ | ⟨h, _⟩ | ⟨_, _, h | ⟨_, h⟩⟩
  · cases h
  · exact hnumeral _ h
  · exact absurd h (by decide)
  · exact hnumeral _ h
  · have hcomma : Symbol.char ',' ∈ Text.ofString "max" := by
      rw [h]
      simp [Text.ofString, Text.ofChars]
    exact absurd hcomma (by decide)

/-- The types that are never written with a size have no parenthesis at all. -/
theorem Product.TypeRule.of_unsized (h : p.TypeRule c t)
    (hname : c.typeName ∈ (["BIT", "BOOLEAN", "FLOAT", "TIMESTAMP"] : List Text)) :
    opening ∉ t := by
  have hnotLimited : ∀ l ∈ sizeLimits,
      l.1 ∉ (["BIT", "BOOLEAN", "FLOAT", "TIMESTAMP"] : List Text) := by decide
  have hplain : ∀ name ∈ (["BIT", "BOOLEAN", "FLOAT", "TIMESTAMP"] : List Text),
      opening ∉ name := by decide
  cases h with
  | boolean h => decide
  | largeText h _ => exact absurd (h ▸ hname) (by decide)
  | boundedText h _ => exact absurd (h ▸ hname) (by decide)
  | timestamp h => decide
  | oversized h =>
    obtain ⟨l, hl, h, _⟩ := h
    exact absurd (h ▸ hname) (hnotLimited l hl)
  | standard hspecial _ =>
    have hunsized : unsizedTypes.contains c.typeName = true := by
      simp only [List.mem_cons, List.not_mem_nil, or_false] at hname
      rcases hname with h | h | h | h
      · rw [h]; rfl
      · exact absurd h hspecial.1
      · rw [h]; rfl
      · exact absurd h hspecial.2.2
    have hform : productForm c.typeName c = .simple := if_pos hunsized
    rw [hform]
    exact hplain _ hname

/-- For all types but BIT the form of the products is that of the standard rule. -/
theorem productForm_eq (h : c.typeName ≠ "BIT") :
    productForm c.typeName c = standardForm c.typeName c := by
  unfold productForm
  split
  · next hunsized =>
    have hfloat : c.typeName = "FLOAT" := by
      simp only [unsizedTypes, List.contains_eq_mem, List.mem_cons, List.not_mem_nil, or_false,
        decide_eq_true_eq] at hunsized
      exact hunsized.resolve_left h
    rw [hfloat]
    rfl
  · rfl

/-- **Apart from the special types the text is that of the standard rule.** -/
theorem Product.TypeRule.eq_standardType (h : p.TypeRule c t)
    (hname : c.typeName ∉ (["BOOLEAN", "CLOB", "TIMESTAMP", "BIT"] : List Text))
    (hsize : ¬ c.IsOversized) : t = c.standardType := by
  simp only [List.mem_cons, List.not_mem_nil, or_false, not_or] at hname
  obtain ⟨hboolean, hclob, htimestamp, hbit⟩ := hname
  cases h with
  | boolean h => exact absurd h hboolean
  | largeText h _ => exact absurd h hclob
  | boundedText h _ => exact absurd h hclob
  | timestamp h => exact absurd h htimestamp
  | oversized h => exact absurd h hsize
  | standard _ _ => rw [productForm_eq hbit, Column.standardType]

/-- By the standard rule an exact number has its size and scale exactly if its scale is not
negative. -/
theorem Column.standardType_of_scaled (h : c.typeName ∈ scaledTypes) :
    c.standardType = if 0 ≤ c.scale then withScale c.typeName c.size c.scale else c.typeName := by
  have hunsized : ∀ name ∈ scaledTypes, sizedTypes.contains name = false := by decide
  have hform : standardForm c.typeName c = if 0 ≤ c.scale then .sizeAndScale else .simple := by
    rw [standardForm, hunsized _ h, List.contains_iff_mem.mpr h]
    simp
  rw [standardType, hform]
  split
  · next hscale => rw [typeIn_sizeAndScale, Int.max_eq_left hscale]
  · rfl

end

/-- **Types stay within the limits of the products.**  For both products and every column whose type
name has no parenthesis:

* A VARCHAR keeps a size up to 8000, an NVARCHAR one up to 4000, and is VARCHAR(max) otherwise.  No
  other size of these types is ever written.
* On Synapse the type is never NVARCHAR(max).
* BIT, BOOLEAN, FLOAT and TIMESTAMP are written without parentheses.
* Apart from BOOLEAN, CLOB, TIMESTAMP, BIT and sizes above their limit, the text is that of the
  standard rule, by which exact numbers have a size and a scale if the scale is not negative. -/
theorem columnType_within_limits (p : Product) (c : Column) (hname : opening ∉ c.typeName) :
    (∀ l ∈ sizeLimits,
      (c.typeName = l.1 →
        p.columnType c = if c.size ≤ l.2 then withSize l.1 c.size else "VARCHAR(max)") ∧
      ∀ n, p.columnType c = withSize l.1 n → n ≤ l.2) ∧
    (p = .synapse → p.columnType c ≠ "NVARCHAR(max)") ∧
    (c.typeName ∈ (["BIT", "BOOLEAN", "FLOAT", "TIMESTAMP"] : List Text) →
      opening ∉ p.columnType c) ∧
    (c.typeName ∉ (["BOOLEAN", "CLOB", "TIMESTAMP", "BIT"] : List Text) → ¬ c.IsOversized →
      p.columnType c = c.standardType) ∧
    (c.typeName ∈ (["DECIMAL", "NUMERIC"] : List Text) →
      c.standardType =
        if 0 ≤ c.scale then withScale c.typeName c.size c.scale else c.typeName) := by
  have hrule := p.typeRule_columnType c
  refine ⟨?_, ?_, hrule.of_unsized, hrule.eq_standardType, Column.standardType_of_scaled⟩
  · intro l hl
    exact ⟨hrule.of_limited hl, fun n hn => hrule.size_le hname hl hn⟩
  · rintro rfl
    exact hrule.ne_largeText hname

/-- A national text one above its limit, and an exact number without a scale. -/
theorem note_too_long_for_synapse :
    let note : Column := ⟨"note", "NVARCHAR", 4001, -1, none⟩
    let price : Column := ⟨"price", "DECIMAL", 18, -1, none⟩
    (opening ∉ note.typeName ∧ Product.columnType .synapse note = "VARCHAR(max)") ∧
      opening ∉ price.typeName ∧ Product.columnType .synapse price = "DECIMAL" := by
  intro note price
  have hnote : opening ∉ note.typeName := by decide
  have hprice : opening ∉ price.typeName := by decide
  obtain ⟨hlimits, _⟩ := columnType_within_limits .synapse note hnote
  obtain ⟨_, _, _, hstandard, hscaled⟩ := columnType_within_limits .synapse price hprice
  have hsize : ¬ price.IsOversized := by
    rintro ⟨l, hl, hname, _⟩
    revert l
    decide
  refine ⟨⟨hnote, ?_⟩, hprice, ?_⟩
  · exact (hlimits _ (.tail _ (.head _))).1 rfl
  · exact (hstandard (by decide) hsize).trans (hscaled (by decide))

end StagedLoad
