import Turnstile.Proofs.JsonText
import Turnstile.Token.Signed

namespace Turnstile

namespace Text.Base64

theorem value?_symbol : ∀ n < 64, value? (symbol n) = some n := by
  decide

theorem symbol_ne_period : ∀ n < 64, symbol n ≠ '.' := by
  decide

theorem ofNat_of_eq {a : UInt8} {n : Nat} (h : n = a.toNat) : UInt8.ofNat n = a := by
  rw [h, UInt8.ofNat_toNat]

theorem decode_encode (bs : List UInt8) : decode (encode bs) = some bs := by
  induction bs using encode.induct with
  | case1 => rfl
  | case2 a =>
    have ha := a.toNat_lt
    have h₁ := value?_symbol (a.toNat / 4) (by omega)
    have h₂ := value?_symbol (a.toNat % 4 * 16) (by omega)
    have hzero : a.toNat % 4 * 16 % 16 = 0 := by omega
    have hfirst : UInt8.ofNat (a.toNat / 4 * 4 + a.toNat % 4 * 16 / 16) = a :=
      ofNat_of_eq (by omega)
    simp only [encode, decode, h₁, h₂, Option.bind_eq_bind, Option.bind_some, hzero, hfirst,
      ↓reduceIte]
  | case3 a b =>
    have ha := a.toNat_lt
    have hb := b.toNat_lt
    have h₁ := value?_symbol (a.toNat / 4) (by omega)
    have h₂ := value?_symbol (a.toNat % 4 * 16 + b.toNat / 16) (by omega)
    have h₃ := value?_symbol (b.toNat % 16 * 4) (by omega)
    have hzero : b.toNat % 16 * 4 % 4 = 0 := by omega
    have hfirst : UInt8.ofNat (a.toNat / 4 * 4 + (a.toNat % 4 * 16 + b.toNat / 16) / 16) = a :=
      ofNat_of_eq (by omega)
    have hsecond : UInt8.ofNat ((a.toNat % 4 * 16 + b.toNat / 16) % 16 * 16 +
        b.toNat % 16 * 4 / 4) = b := ofNat_of_eq (by omega)
    simp only [encode, decode, h₁, h₂, h₃, Option.bind_eq_bind, Option.bind_some, hzero, hfirst,
      hsecond, ↓reduceIte]
  | case4 a b c rest ih =>
    have ha := a.toNat_lt
    have hb := b.toNat_lt
    have hc := c.toNat_lt
    have h₁ := value?_symbol (a.toNat / 4) (by omega)
    have h₂ := value?_symbol (a.toNat % 4 * 16 + b.toNat / 16) (by omega)
    have h₃ := value?_symbol (b.toNat % 16 * 4 + c.toNat / 64) (by omega)
    have h₄ := value?_symbol (c.toNat % 64) (by omega)
    have hfirst : UInt8.ofNat (a.toNat / 4 * 4 + (a.toNat % 4 * 16 + b.toNat / 16) / 16) = a :=
      ofNat_of_eq (by omega)
    have hsecond : UInt8.ofNat ((a.toNat % 4 * 16 + b.toNat / 16) % 16 * 16 +
        (b.toNat % 16 * 4 + c.toNat / 64) / 4) = b := ofNat_of_eq (by omega)
    have hthird : UInt8.ofNat ((b.toNat % 16 * 4 + c.toNat / 64) % 4 * 64 + c.toNat % 64) = c :=
      ofNat_of_eq (by omega)
    simp only [encode, decode, h₁, h₂, h₃, h₄, ih, Option.bind_eq_bind, Option.bind_some, hfirst,
      hsecond, hthird]

/-- No part of a signed text contains a period, so the periods part it in one way. -/
theorem period_notMem_encode (bs : List UInt8) : '.' ∉ encode bs := by
  have hsymbol : ∀ n < 64, '.' ≠ symbol n := fun n hn => (symbol_ne_period n hn).symm
  induction bs using encode.induct with
  | case1 => exact List.not_mem_nil
  | case2 a =>
    have ha := a.toNat_lt
    simp only [encode, List.mem_cons, List.not_mem_nil, or_false, not_or]
    exact ⟨hsymbol _ (by omega), hsymbol _ (by omega)⟩
  | case3 a b =>
    have ha := a.toNat_lt
    have hb := b.toNat_lt
    simp only [encode, List.mem_cons, List.not_mem_nil, or_false, not_or]
    exact ⟨hsymbol _ (by omega), hsymbol _ (by omega), hsymbol _ (by omega)⟩
  | case4 a b c rest ih =>
    have ha := a.toNat_lt
    have hb := b.toNat_lt
    have hc := c.toNat_lt
    simp only [encode, List.mem_cons, not_or]
    exact ⟨hsymbol _ (by omega), hsymbol _ (by omega), hsymbol _ (by omega),
      hsymbol _ (by omega), ih⟩

end Text.Base64

namespace Signed
open Json

theorem toList_loop (b : ByteArray) (i : Nat) (r : List UInt8) :
    ByteArray.toList.loop b i r = r.reverse ++ b.data.toList.drop i := by
  fun_induction ByteArray.toList.loop b i r with
  | case1 i r hi ih =>
    have hlt : i < b.data.toList.length := hi
    have hget : b.get! i = b.data.toList[i] := by simp [ByteArray.get!, hi]
    rw [ih, List.drop_eq_getElem_cons hlt, hget]
    simp
  | case2 i r hi =>
    have hle : b.data.toList.length ≤ i := Nat.le_of_not_lt hi
    rw [List.drop_eq_nil_of_le hle, List.append_nil]

/-- The bytes of a text are those of a text. -/
theorem textOfBytes?_bytes (s : String) : textOfBytes? (bytes s) = some s := by
  have hlist : s.toUTF8.toList = s.toUTF8.data.toList := toList_loop s.toUTF8 0 []
  have hbytes : (⟨s.toUTF8.data.toList.toArray⟩ : ByteArray) = s.toUTF8 := rfl
  unfold textOfBytes? bytes
  rw [hlist, hbytes, String.fromUTF8?]
  exact dif_pos s.isValidUTF8

theorem splitAtLastPeriod_none {cs : List Char} (h : '.' ∉ cs) : splitAtLastPeriod cs = none := by
  induction cs with
  | nil => rfl
  | cons c cs ih =>
    rw [List.mem_cons, not_or] at h
    rw [splitAtLastPeriod, ih h.2, if_neg (Ne.symm h.1)]

theorem splitAtLastPeriod_append (a : List Char) {b : List Char} (h : '.' ∉ b) :
    splitAtLastPeriod (a ++ '.' :: b) = some (a, b) := by
  induction a with
  | nil =>
    rw [List.nil_append, splitAtLastPeriod, splitAtLastPeriod_none h]
    rfl
  | cons c a ih =>
    rw [List.cons_append, splitAtLastPeriod, ih]

/-- The header that is written names the algorithm it is written for. -/
theorem headerAlgorithm?_header (signing : Signing) :
    headerAlgorithm? (header signing) = some signing.name := by
  cases signing <;> decide

theorem header_fits (signing : Signing) : (header signing).Fits := ⟨rfl, rfl, rfl, rfl, trivial⟩

/-- A signed text opens under the algorithm and the secret it was signed with. -/
theorem payload_sign (signing : Signing) (secret payload : String) :
    Signed.payload signing secret (sign signing secret payload) = .ok (bytes payload) := by
  let body := encoded (header signing).render ++ '.' :: encoded payload
  have hsent : splitAtLastPeriod (sign signing secret payload).toList =
      some (body, Text.Base64.encode (signature signing secret body)) := by
    rw [sign, String.toList_ofList]
    exact splitAtLastPeriod_append body (Text.Base64.period_notMem_encode _)
  have hcontent : splitAtLastPeriod body =
      some (encoded (header signing).render, encoded payload) :=
    splitAtLastPeriod_append _ (Text.Base64.period_notMem_encode (bytes payload))
  have hhead : ((textOfBytes? (bytes (header signing).render)).bind parse).bind
      headerAlgorithm? = some signing.name := by
    rw [textOfBytes?_bytes, Option.bind_some, parse_render (header_fits signing),
      Option.bind_some, headerAlgorithm?_header]
  have hdecode (s : String) : Text.Base64.decode (encoded s) = some (bytes s) :=
    Text.Base64.decode_encode (bytes s)
  unfold Signed.payload
  simp only [hsent, hcontent, hdecode, hhead, Text.Base64.decode_encode]
  simp only [ne_eq, not_true_eq_false, ↓reduceIte]

end Signed
end Turnstile
