import JsxVNode.Cache.Entry
import JsxVNode.Text.Entity
/-!
The bytes the cache hashes name the source and the options they were made from. The options are
written as compact JSON, and a JSON string is written so that its text ends at its closing quote:
every character of it reads back by itself (`readEscaped`), and none of them is a quote. Null,
booleans and strings therefore fix their own end, and so does an object of them under fixed
keys. No character of that JSON is NUL, since control characters are escaped, and UTF-8 writes a
zero byte only for NUL; so the zero byte after the options is the first one, and everything
before and after it is recovered. `Cache.key_injective` is the main statement.
-/
namespace JsxVNode

/-! ### Bytes of a text -/

theorem ByteArray.toList_loop (bs : ByteArray) (i : Nat) (r : List UInt8) :
    ByteArray.toList.loop bs i r = r.reverse ++ bs.data.toList.drop i := by
  fun_induction ByteArray.toList.loop bs i r with
  | case1 i r inside ih =>
    rw [ih, List.drop_eq_getElem_cons (by simpa using inside : i < bs.data.toList.length)]
    simp [ByteArray.get!, inside]
  | case2 i r outside =>
    rw [List.drop_eq_nil_of_le (by simpa using Nat.le_of_not_lt outside)]
    simp

theorem toUTF8_toList (s : String) : s.toUTF8.toList = s.toList.flatMap String.utf8EncodeChar := by
  rw [ByteArray.toList, ByteArray.toList_loop, List.reverse_nil, List.nil_append, List.drop_zero,
    String.toUTF8, ← String.utf8Encode_toList, List.utf8Encode, List.toList_data_toByteArray]

theorem toUTF8_toList_inj {s t : String} (h : s.toUTF8.toList = t.toUTF8.toList) : s = t := by
  rw [ByteArray.toList, ByteArray.toList, ByteArray.toList_loop, ByteArray.toList_loop] at h
  simp only [List.reverse_nil, List.nil_append, List.drop_zero, Array.toList_inj] at h
  exact String.toByteArray_inj.mp (ByteArray.ext h)

theorem zero_not_mem_utf8EncodeChar {c : Char} (notNul : c ≠ '\x00') :
    (0 : UInt8) ∉ String.utf8EncodeChar c := by
  have positive : 0 < c.val.toNat := by
    rcases Nat.eq_zero_or_pos c.val.toNat with zero | positive
    · exact absurd (Char.ext (UInt32.toNat_inj.mp zero)) notNul
    · exact positive
  have small := c.valid
  have bytes : ∀ ns : List Nat, (∀ n ∈ ns, 0 < n % 256) → (0 : UInt8) ∉ ns.map UInt8.ofNat := by
    intro ns pos mem
    obtain ⟨n, mem, same⟩ := List.mem_map.mp mem
    have := congrArg UInt8.toNat same
    simp only [UInt8.toNat_ofNat', UInt8.toNat_zero] at this
    exact absurd this (Nat.pos_iff_ne_zero.mp (pos n mem))
  unfold String.utf8EncodeChar
  simp only
  -- each byte after the first of a longer form carries a marker bit, and so does the first
  split
  · refine bytes [_] fun n mem => ?_
    rcases List.mem_singleton.mp mem with rfl
    omega
  split
  · refine bytes [_, _] fun n mem => ?_
    simp only [List.mem_cons, List.not_mem_nil, or_false] at mem
    rcases mem with rfl | rfl <;> omega
  split
  · refine bytes [_, _, _] fun n mem => ?_
    simp only [List.mem_cons, List.not_mem_nil, or_false] at mem
    rcases mem with rfl | rfl | rfl <;> omega
  · refine bytes [_, _, _, _] fun n mem => ?_
    simp only [List.mem_cons, List.not_mem_nil, or_false] at mem
    rcases mem with rfl | rfl | rfl | rfl <;> omega

theorem append_zero_inj {a b x y : List UInt8} (ha : (0 : UInt8) ∉ a) (hb : (0 : UInt8) ∉ b)
    (h : a ++ 0 :: x = b ++ 0 :: y) : a = b ∧ x = y := by
  induction a generalizing b with
  | nil =>
    cases b with
    | nil => simpa using h
    | cons d b =>
      obtain ⟨same, -⟩ := List.cons.inj h
      exact absurd (same ▸ List.mem_cons_self) hb
  | cons c a ih =>
    cases b with
    | nil =>
      obtain ⟨same, -⟩ := List.cons.inj h
      exact absurd (same ▸ List.mem_cons_self) ha
    | cons d b =>
      obtain ⟨rfl, rest⟩ := List.cons.inj h
      obtain ⟨rfl, rfl⟩ := ih (fun m => ha (List.mem_cons_of_mem _ m))
        (fun m => hb (List.mem_cons_of_mem _ m)) rest
      exact ⟨rfl, rfl⟩

/-! ### JSON strings end at their closing quote -/

/-- Reads one character of the body of a JSON string: an escape, or a character that stands for
itself. -/
def readEscaped : List Char → Option (Char × List Char)
  | '\\' :: 'u' :: '0' :: '0' :: a :: b :: rest =>
    (Text.digitValue 16 a).bind fun hi =>
      (Text.digitValue 16 b).map fun lo => (Char.ofNat (hi * 16 + lo), rest)
  | '\\' :: 'b' :: rest => some ('\x08', rest)
  | '\\' :: 'f' :: rest => some ('\x0c', rest)
  | '\\' :: 'n' :: rest => some ('\n', rest)
  | '\\' :: 'r' :: rest => some ('\r', rest)
  | '\\' :: 't' :: rest => some ('\t', rest)
  | '\\' :: e :: rest => some (e, rest)
  | c :: rest => some (c, rest)
  | [] => none

theorem digitValue_hexDigit : ∀ k : Fin 16, Text.digitValue 16 (hexDigit k.val) = some k.val := by
  decide

theorem hexDigit_ne_nul : ∀ k : Fin 16, hexDigit k.val ≠ '\x00' := by
  decide

theorem readEscaped_escapeJsonChar (c : Char) (x : List Char) :
    readEscaped ((escapeJsonChar c).toList ++ x) = some (c, x) := by
  have named : ∀ n, c.toNat = n → c = Char.ofNat n := fun n same => by
    rw [← same, Char.ofNat_toNat]
  unfold escapeJsonChar
  split
  · rename_i quote; rw [beq_iff_eq.mp quote]; rfl
  split
  · rename_i backslash; rw [beq_iff_eq.mp backslash]; rfl
  split
  · rename_i newline; rw [beq_iff_eq.mp newline]; rfl
  split
  · rename_i ret; rw [beq_iff_eq.mp ret]; rfl
  split
  · rename_i tab; rw [beq_iff_eq.mp tab]; rfl
  split
  · rename_i backspace; rw [named 8 (beq_iff_eq.mp backspace)]; rfl
  split
  · rename_i feed; rw [named 12 (beq_iff_eq.mp feed)]; rfl
  split
  · rename_i control
    have high := digitValue_hexDigit ⟨c.toNat / 16, by omega⟩
    have low := digitValue_hexDigit ⟨c.toNat % 16, by omega⟩
    simp only [String.toList_ofList, List.cons_append, List.nil_append, readEscaped, high, low,
      Option.bind_some, Option.map_some, Nat.div_add_mod', Char.ofNat_toNat]
  · rename_i notQuote notBackslash _ _ _ _ _ _
    have single : c.toString.toList = [c] := by simp
    rw [single, List.singleton_append]
    unfold readEscaped
    split <;> simp_all

theorem escapeJsonChar_append_inj {c d : Char} {x y : List Char}
    (h : (escapeJsonChar c).toList ++ x = (escapeJsonChar d).toList ++ y) : c = d ∧ x = y := by
  have read := congrArg readEscaped h
  rw [readEscaped_escapeJsonChar, readEscaped_escapeJsonChar] at read
  simpa using read

theorem escapeJsonChar_head (c : Char) :
    ∃ e rest, (escapeJsonChar c).toList = e :: rest ∧ e ≠ '"' := by
  have read := readEscaped_escapeJsonChar c []
  cases written : (escapeJsonChar c).toList with
  | nil => rw [written] at read; cases read
  | cons e rest =>
    refine ⟨e, rest, rfl, ?_⟩
    rintro rfl
    have quote : readEscaped ('"' :: rest) = some ('"', rest) := rfl
    rw [written, List.append_nil, quote] at read
    obtain ⟨rfl, -⟩ := Prod.mk.inj (Option.some.inj read)
    simp [escapeJsonChar] at written

theorem jsonString_toList (s : String) :
    (jsonString s).toList = '"' :: s.toList.flatMap (fun c => (escapeJsonChar c).toList) ++ ['"'] := by
  simp [jsonString, String.toList_join, List.flatMap_map]

theorem escaped_append_inj {s t x y : List Char}
    (h : s.flatMap (fun c => (escapeJsonChar c).toList) ++ '"' :: x =
      t.flatMap (fun c => (escapeJsonChar c).toList) ++ '"' :: y) : s = t ∧ x = y := by
  induction s generalizing t with
  | nil =>
    cases t with
    | nil => simpa using h
    | cons d t =>
      obtain ⟨e, rest, written, notQuote⟩ := escapeJsonChar_head d
      simp only [List.flatMap_nil, List.nil_append, List.flatMap_cons, written, List.cons_append,
        List.append_assoc, List.cons.injEq] at h
      exact absurd h.1.symm notQuote
  | cons c s ih =>
    cases t with
    | nil =>
      obtain ⟨e, rest, written, notQuote⟩ := escapeJsonChar_head c
      simp only [List.flatMap_nil, List.nil_append, List.flatMap_cons, written, List.cons_append,
        List.append_assoc, List.cons.injEq] at h
      exact absurd h.1 notQuote
    | cons d t =>
      simp only [List.flatMap_cons, List.append_assoc] at h
      obtain ⟨rfl, rest⟩ := escapeJsonChar_append_inj h
      obtain ⟨rfl, rfl⟩ := ih rest
      exact ⟨rfl, rfl⟩

theorem jsonString_append_inj {s t : String} {x y : List Char}
    (h : (jsonString s).toList ++ x = (jsonString t).toList ++ y) : s = t ∧ x = y := by
  simp only [jsonString_toList, List.cons_append, List.append_assoc, List.cons.injEq,
    true_and] at h
  obtain ⟨same, rest⟩ := escaped_append_inj h
  exact ⟨String.ext same, rest⟩

theorem nul_not_mem_escapeJsonChar (c : Char) : '\x00' ∉ (escapeJsonChar c).toList := by
  unfold escapeJsonChar
  split
  · decide
  split
  · decide
  split
  · decide
  split
  · decide
  split
  · decide
  split
  · decide
  split
  · decide
  split
  · rename_i control
    simpa using ⟨(hexDigit_ne_nul ⟨c.toNat / 16, by omega⟩).symm,
      (hexDigit_ne_nul ⟨c.toNat % 16, by omega⟩).symm⟩
  · rename_i printable
    have single : c.toString.toList = [c] := by simp
    rw [single, List.mem_singleton]
    rintro rfl
    exact printable (by decide)

theorem nul_not_mem_jsonString (s : String) : '\x00' ∉ (jsonString s).toList := by
  simpa [jsonString_toList] using fun c _ => nul_not_mem_escapeJsonChar c

/-! ### Objects of scalars under fixed keys -/

def Json.IsScalar : Json → Prop
  | .null | .bool _ | .str _ => True
  | _ => False

theorem Json.compact_append_inj {j₁ j₂ : Json} (scalar₁ : j₁.IsScalar) (scalar₂ : j₂.IsScalar)
    {x y : List Char} (h : j₁.compact.toList ++ x = j₂.compact.toList ++ y) : j₁ = j₂ ∧ x = y := by
  cases j₁ with
  | null =>
    cases j₂ with
    | null => simpa [Json.compact] using h
    | bool b => cases b <;> simp [Json.compact] at h
    | str t => simp [Json.compact, jsonString_toList] at h
    | _ => cases scalar₂
  | bool b =>
    cases j₂ with
    | null => cases b <;> simp [Json.compact] at h
    | bool b' => cases b <;> cases b' <;> simp_all [Json.compact]
    | str t => cases b <;> simp [Json.compact, jsonString_toList] at h
    | _ => cases scalar₂
  | str s =>
    cases j₂ with
    | null => simp [Json.compact, jsonString_toList] at h
    | bool b => cases b <;> simp [Json.compact, jsonString_toList] at h
    | str t =>
      obtain ⟨rfl, rfl⟩ := jsonString_append_inj h
      exact ⟨rfl, rfl⟩
    | _ => cases scalar₂
  | _ => cases scalar₁

theorem Json.compactFields_append_inj {keys : List String} {vs ws : List Json}
    (scalarV : ∀ v ∈ vs, v.IsScalar) (scalarW : ∀ w ∈ ws, w.IsScalar)
    (lenV : vs.length = keys.length) (lenW : ws.length = keys.length) {x y : List Char}
    (h : (Json.compactFields (keys.zip vs)).toList ++ x =
      (Json.compactFields (keys.zip ws)).toList ++ y) : vs = ws ∧ x = y := by
  induction keys generalizing vs ws with
  | nil =>
    obtain rfl := List.length_eq_zero_iff.mp lenV
    obtain rfl := List.length_eq_zero_iff.mp lenW
    simpa [Json.compactFields] using h
  | cons k ks ih =>
    obtain ⟨v, vs, rfl⟩ := List.exists_cons_of_length_eq_add_one lenV
    obtain ⟨w, ws, rfl⟩ := List.exists_cons_of_length_eq_add_one lenW
    have scalar := scalarV v List.mem_cons_self
    have scalar' := scalarW w List.mem_cons_self
    cases ks with
    | nil =>
      obtain rfl := List.length_eq_zero_iff.mp (Nat.succ.inj lenV)
      obtain rfl := List.length_eq_zero_iff.mp (Nat.succ.inj lenW)
      simp only [List.zip_cons_cons, List.zip_nil_right, Json.compactFields.eq_2,
        Json.compactField, String.toList_append, List.append_assoc] at h
      obtain ⟨rfl, rfl⟩ :=
        Json.compact_append_inj scalar scalar' (List.append_cancel_left (List.append_cancel_left h))
      exact ⟨rfl, rfl⟩
    | cons k' ks =>
      obtain ⟨v', vs', rfl⟩ := List.exists_cons_of_length_eq_add_one (Nat.succ.inj lenV)
      obtain ⟨w', ws', rfl⟩ := List.exists_cons_of_length_eq_add_one (Nat.succ.inj lenW)
      simp only [List.zip_cons_cons] at h ih
      rw [Json.compactFields.eq_3 _ _ (List.cons_ne_nil _ _),
        Json.compactFields.eq_3 _ _ (List.cons_ne_nil _ _)] at h
      simp only [Json.compactField, String.toList_append, List.append_assoc] at h
      obtain ⟨rfl, rest⟩ :=
        Json.compact_append_inj scalar scalar' (List.append_cancel_left (List.append_cancel_left h))
      obtain ⟨same, rfl⟩ := ih (fun v m => scalarV v (List.mem_cons_of_mem _ m))
        (fun w m => scalarW w (List.mem_cons_of_mem _ m)) (Nat.succ.inj lenV) (Nat.succ.inj lenW)
        (List.append_cancel_left rest)
      exact ⟨by rw [same], rfl⟩

theorem Json.nul_not_mem_compact {j : Json} (scalar : j.IsScalar) : '\x00' ∉ j.compact.toList := by
  cases j with
  | null => decide
  | bool b => cases b <;> decide
  | str s => exact nul_not_mem_jsonString s
  | _ => cases scalar

theorem Json.nul_not_mem_compactFields {fields : List (String × Json)}
    (scalar : ∀ f ∈ fields, f.2.IsScalar) : '\x00' ∉ (Json.compactFields fields).toList := by
  induction fields with
  | nil => decide
  | cons f rest ih =>
    have field : '\x00' ∉ (Json.compactField f).toList := by
      obtain ⟨k, j⟩ := f
      simp only [Json.compactField, String.toList_append, List.mem_append, not_or]
      exact ⟨⟨nul_not_mem_jsonString k, by decide⟩,
        Json.nul_not_mem_compact (scalar (k, j) List.mem_cons_self)⟩
    cases rest with
    | nil => rwa [Json.compactFields.eq_2]
    | cons g more =>
      rw [Json.compactFields.eq_3 _ _ (List.cons_ne_nil _ _)]
      simp only [String.toList_append, List.mem_append, not_or]
      exact ⟨⟨field, by decide⟩, ih (fun f m => scalar f (List.mem_cons_of_mem _ m))⟩

/-! ### Options as JSON -/

theorem Json.optStr_isScalar (o : Option String) : (Json.optStr o).IsScalar := by
  cases o <;> trivial

theorem Json.optStr_inj {a b : Option String} (h : Json.optStr a = Json.optStr b) : a = b := by
  cases a <;> cases b <;> simp_all [Json.optStr]

theorem Options.importsJson_isScalar (i : Imports) : (Options.importsJson i).IsScalar := by
  cases i <;> trivial

theorem Options.importsJson_inj {i j : Imports} (h : Options.importsJson i = Options.importsJson j) :
    i = j := by
  cases i <;> cases j <;> simp_all [Options.importsJson]

def Options.fieldValues (o : Options) : List Json :=
  [Json.optStr o.pragma, Json.optStr o.pragmaCreateComponentVNode, Json.optStr o.pragmaFragment,
    Json.optStr o.pragmaTextVNode, Json.optStr o.pragmaNormalizeProps,
    Options.importsJson o.imports, .bool o.defineAllArguments, .bool o.optimizeStaticVNodes]

theorem Options.toJson_eq (o : Options) : o.toJson = .obj (Options.fieldNames.zip o.fieldValues) :=
  rfl

theorem Options.fieldValues_isScalar (o : Options) : ∀ v ∈ o.fieldValues, v.IsScalar := by
  simp only [Options.fieldValues, List.forall_mem_cons, List.not_mem_nil, false_imp_iff,
    implies_true, and_true]
  exact ⟨Json.optStr_isScalar _, Json.optStr_isScalar _, Json.optStr_isScalar _,
    Json.optStr_isScalar _, Json.optStr_isScalar _, Options.importsJson_isScalar _, trivial, trivial⟩

theorem Options.fieldValues_inj {o₁ o₂ : Options} (h : o₁.fieldValues = o₂.fieldValues) :
    o₁ = o₂ := by
  simp only [Options.fieldValues, List.cons.injEq] at h
  obtain ⟨p₁, p₂, p₃, p₄, p₅, i, d, s, -⟩ := h
  cases o₁
  cases o₂
  obtain rfl := Json.optStr_inj p₁
  obtain rfl := Json.optStr_inj p₂
  obtain rfl := Json.optStr_inj p₃
  obtain rfl := Json.optStr_inj p₄
  obtain rfl := Json.optStr_inj p₅
  obtain rfl := Options.importsJson_inj i
  obtain rfl := Json.bool.inj d
  obtain rfl := Json.bool.inj s
  rfl

theorem Options.toJson_compact_inj {o₁ o₂ : Options} (h : o₁.toJson.compact = o₂.toJson.compact) :
    o₁ = o₂ := by
  have written := congrArg String.toList h
  rw [Options.toJson_eq, Options.toJson_eq, Json.compact.eq_6, Json.compact.eq_6] at written
  simp only [String.toList_append, List.append_assoc] at written
  obtain ⟨values, -⟩ := Json.compactFields_append_inj (Options.fieldValues_isScalar o₁)
    (Options.fieldValues_isScalar o₂) rfl rfl (List.append_cancel_left written)
  exact Options.fieldValues_inj values

theorem Options.nul_not_mem_toJson_compact (o : Options) : '\x00' ∉ o.toJson.compact.toList := by
  rw [Options.toJson_eq, Json.compact.eq_6]
  simp only [String.toList_append, List.mem_append, not_or]
  refine ⟨⟨by decide, Json.nul_not_mem_compactFields ?_⟩, by decide⟩
  rintro ⟨k, v⟩ mem
  exact Options.fieldValues_isScalar o v (List.of_mem_zip mem).2

/-! ### The key -/

theorem zero_not_mem_toUTF8 {s : String} (noNul : '\x00' ∉ s.toList) :
    (0 : UInt8) ∉ s.toUTF8.toList := by
  rw [toUTF8_toList, List.mem_flatMap]
  rintro ⟨c, mem, zero⟩
  exact zero_not_mem_utf8EncodeChar (fun same => noNul (same ▸ mem)) zero

/-- The bytes that the cache hashes determine the source and the options: the options' JSON has
no zero byte, so the zero byte after it marks where the source starts. -/
theorem Cache.key_injective {s₁ s₂ : String} {o₁ o₂ : Options} :
    Cache.key s₁ o₁ = Cache.key s₂ o₂ ↔ s₁ = s₂ ∧ o₁ = o₂ := by
  constructor
  · intro same
    simp only [Cache.key, List.append_assoc, List.singleton_append] at same
    obtain ⟨json, source⟩ :=
      append_zero_inj (zero_not_mem_toUTF8 (Options.nul_not_mem_toJson_compact o₁))
        (zero_not_mem_toUTF8 (Options.nul_not_mem_toJson_compact o₂))
        (List.append_cancel_left (List.append_cancel_left same))
    exact ⟨toUTF8_toList_inj source, Options.toJson_compact_inj (toUTF8_toList_inj json)⟩
  · rintro ⟨rfl, rfl⟩
    rfl

end JsxVNode
