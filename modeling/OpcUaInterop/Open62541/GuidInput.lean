import OpcUaInterop.C.Scan
import OpcUaInterop.Ua.Types
import Mathlib.Tactic.FinCases

/-!
# Reading a Guid

The Guid parser that the client and the value parsers share.
-/

namespace OpcUaInterop.Open62541

open C

def scanGuid (s : Bytes) : Option Guid :=
  match sscanf s "%08x-%04x-%04x-%02x%02x-%02x%02x%02x%02x%02x%02x" with
  | d₁ :: d₂ :: d₃ :: b =>
    if b.length = 8 then
      some ⟨UInt32.ofNat d₁.toNat, UInt16.ofNat d₂.toNat, UInt16.ofNat d₃.toNat,
        fun i => UInt8.ofNat (b.getD i 0).toNat⟩
    else none
  | _ => none

def parseGuidString (s : Bytes) : Option Guid := scanGuid s

/-- **A well-formed text of a Guid**: 8, 4, 4, 4 and 12 hexadecimal digits. -/
inductive GuidText (g : Guid) : Bytes → Prop
  | mk {d₁ d₂ d₃ : Bytes} {b : Fin 8 → Bytes} (h₁ : HexText 8 g.data1.toNat d₁)
      (h₂ : HexText 4 g.data2.toNat d₂) (h₃ : HexText 4 g.data3.toNat d₃)
      (hb : ∀ i, HexText 2 (g.data4 i).toNat (b i)) :
      GuidText g (d₁ ++ 0x2d :: (d₂ ++ 0x2d :: (d₃ ++ 0x2d :: (b 0 ++ (b 1 ++ 0x2d :: (b 2 ++
        (b 3 ++ (b 4 ++ (b 5 ++ (b 6 ++ b 7))))))))))

lemma GuidText.forall_mem {g : Guid} {t : Bytes} (h : GuidText g t) {P : UInt8 → Prop}
    (hx : ∀ c, isXDigit c → P c) (hdash : P 0x2d) : ∀ c ∈ t, P c := by
  obtain ⟨h₁, h₂, h₃, hb⟩ := h
  have hdigits : ∀ {w n : ℕ} {d : Bytes}, HexText w n d → ∀ c ∈ d, P c :=
    fun hd c hc => hx c (hd.xdigits c hc)
  simp only [List.forall_mem_append, List.forall_mem_cons]
  exact ⟨hdigits h₁, hdash, hdigits h₂, hdash, hdigits h₃, hdash, hdigits (hb 0),
    hdigits (hb 1), hdash,
    hdigits (hb 2), hdigits (hb 3), hdigits (hb 4), hdigits (hb 5), hdigits (hb 6), hdigits (hb 7)⟩

lemma scanGuid_guidText {g : Guid} {t : Bytes} (h : GuidText g t) : scanGuid t = some g := by
  obtain ⟨h₁, h₂, h₃, hb⟩ := h
  rename_i d₁ d₂ d₃ b
  have hfmt : formatOf "%08x-%04x-%04x-%02x%02x-%02x%02x%02x%02x%02x%02x".toList =
      [.x 8, .lit 0x2d, .x 4, .lit 0x2d, .x 4, .lit 0x2d, .x 2, .x 2, .lit 0x2d, .x 2, .x 2, .x 2,
        .x 2, .x 2, .x 2] := rfl
  have hlast : ∀ total, scanDirectives total [.x 2] (b 7) = [((g.data4 7).toNat : ℤ)] := by
    intro total
    rw [← List.append_nil (b 7), scanDirectives_x (by decide) (by decide) (hb 7), scanDirectives]
  have hscan : sscanf (d₁ ++ 0x2d :: (d₂ ++ 0x2d :: (d₃ ++ 0x2d :: (b 0 ++ (b 1 ++ 0x2d :: (b 2 ++
        (b 3 ++ (b 4 ++ (b 5 ++ (b 6 ++ b 7))))))))))
        "%08x-%04x-%04x-%02x%02x-%02x%02x%02x%02x%02x%02x" =
      (g.data1.toNat : ℤ) :: (g.data2.toNat : ℤ) :: (g.data3.toNat : ℤ) ::
        [((g.data4 0).toNat : ℤ), ((g.data4 1).toNat : ℤ), ((g.data4 2).toNat : ℤ),
        ((g.data4 3).toNat : ℤ), ((g.data4 4).toNat : ℤ), ((g.data4 5).toNat : ℤ),
        ((g.data4 6).toNat : ℤ), ((g.data4 7).toNat : ℤ)] := by
    rw [sscanf, hfmt, scanDirectives_x (by decide) (by decide) h₁, scanDirectives_lit,
      scanDirectives_x (by decide) (by decide) h₂, scanDirectives_lit,
      scanDirectives_x (by decide) (by decide) h₃,
      scanDirectives_lit, scanDirectives_x (by decide) (by decide) (hb 0),
      scanDirectives_x (by decide) (by decide) (hb 1), scanDirectives_lit,
      scanDirectives_x (by decide) (by decide) (hb 2),
      scanDirectives_x (by decide) (by decide) (hb 3),
      scanDirectives_x (by decide) (by decide) (hb 4),
      scanDirectives_x (by decide) (by decide) (hb 5),
      scanDirectives_x (by decide) (by decide) (hb 6), hlast]
  rw [scanGuid, hscan]
  simp only [List.length_cons, List.length_nil, if_true, Int.toNat_natCast, UInt32.ofNat_toNat,
    UInt16.ofNat_toNat]
  congr 1
  -- the bytes of the last two groups, one by one
  have hdata : (fun i : Fin 8 => UInt8.ofNat (List.getD [((g.data4 0).toNat : ℤ),
      ((g.data4 1).toNat : ℤ), ((g.data4 2).toNat : ℤ), ((g.data4 3).toNat : ℤ),
      ((g.data4 4).toNat : ℤ), ((g.data4 5).toNat : ℤ), ((g.data4 6).toNat : ℤ),
      ((g.data4 7).toNat : ℤ)] i 0).toNat) = g.data4 := by
    funext i
    fin_cases i <;> simp
  rw [hdata]

end OpcUaInterop.Open62541
