import RouteAudit.Proofs.Text.Ascii
import RouteAudit.Scan

/-!
# The ends of lines

Some patterns reach over a line end, and a summary reads imports line by line, so it matters what a
line ends with.  Nothing of that is left once a file has been read: a file says the same to an
analysis whether its lines end with a line feed, with a carriage return or with both.  Bytes that
are not UTF-8 do not get in the way, because a line end is made of ASCII bytes: it breaks off what
comes before it and is read for itself.

* `endLines` — other line ends, in bytes as in text;
* `decode_endLines` — the text of a file with other line ends is its text with other line ends;
* `unifyNewlines_endLines` — which are read as line feeds again;
* `takeFile_endLines` — so an analysis takes in the same.
-/

set_option autoImplicit false

namespace RouteAudit
namespace Text

/-- The same lines, each ended by `e` instead of `old`. -/
def endLines {α : Type} [DecidableEq α] (old : α) (e s : List α) : List α :=
  s.flatMap fun x => if x = old then e else [x]

variable {α : Type} [DecidableEq α] {old x : α} {e s : List α}

theorem endLines_cons_self : endLines old e (old :: s) = e ++ endLines old e s := by
  rw [endLines, List.flatMap_cons, if_pos rfl]
  rfl

theorem endLines_cons_of_ne (h : x ≠ old) : endLines old e (x :: s) = x :: endLines old e s := by
  rw [endLines, List.flatMap_cons, if_neg h]
  rfl

theorem endLines_append (s₁ s₂ : List α) :
    endLines old e (s₁ ++ s₂) = endLines old e s₁ ++ endLines old e s₂ :=
  List.flatMap_append

theorem endLines_of_not_mem (h : old ∉ s) : endLines old e s = s := by
  induction s with
  | nil => rfl
  | cons x s ih =>
    obtain ⟨hx, hs⟩ := not_or.1 (mt List.mem_cons.2 h)
    rw [endLines_cons_of_ne (Ne.symm hx), ih hs]

/-! ## In bytes -/

theorem IsHigh.ne {c d : Char} (hc : IsHigh c) (hd : d.toNat < 0x80) : c ≠ d := by
  rintro rfl
  exact absurd hc (Nat.not_le.2 hd)

/-- Only the byte of an ASCII character brings it about. -/
theorem not_mem_readByte {held : Option Unfinished} (hheld : CanHold held) {b : Nat} {c : Char}
    (hc : c.toNat < 0x80) (hb : b ≠ c.toNat) : c ∉ (readByte held b).1 := by
  by_cases hlt : b < 0x80
  · rw [readByte_of_lt hheld hlt, List.mem_append, List.mem_singleton]
    rintro (h | rfl)
    · exact (isHigh_of_mem_brokenOff h).ne hc rfl
    · exact hb (toNat_ofNat_of_lt hlt).symm
  · exact fun h => ((readByte_of_le hheld (Nat.not_lt.1 hlt)).high c h).ne hc rfl

theorem canHold_readByte {held : Option Unfinished} (hheld : CanHold held) (b : Nat) :
    CanHold (readByte held b).2 := by
  by_cases hlt : b < 0x80
  · rw [readByte_of_lt hheld hlt]
    exact canHold_none
  · exact (readByte_of_le hheld (Nat.not_lt.1 hlt)).held

/-- A text has no ASCII character whose byte is not in the file. -/
theorem not_mem_decodeFrom {held : Option Unfinished} (hheld : CanHold held) {bs : List UInt8}
    {c : Char} (hc : c.toNat < 0x80) (h : ∀ b ∈ bs, b.toNat ≠ c.toNat) :
    c ∉ decodeFrom held bs := by
  induction bs generalizing held with
  | nil => exact fun hm => (isHigh_of_mem_brokenOff hm).ne hc rfl
  | cons b bs ih =>
    obtain ⟨hb, hbs⟩ := List.forall_mem_cons.1 h
    rw [decodeFrom, List.mem_append]
    rintro (hm | hm)
    · exact not_mem_readByte hheld hc hb hm
    · exact ih (canHold_readByte hheld b.toNat) hbs hm

/-- ASCII bytes break off what is held, and then each stands for itself. -/
theorem decodeFrom_ascii {held : Option Unfinished} (hheld : CanHold held) {e : List UInt8}
    (hne : e ≠ []) (he : ∀ b ∈ e, b.toNat < 0x80) (bs : List UInt8) :
    decodeFrom held (e ++ bs) =
      brokenOff held ++ e.map (fun b => Char.ofNat b.toNat) ++ decodeFrom none bs := by
  have hnone : ∀ e : List UInt8, (∀ b ∈ e, b.toNat < 0x80) →
      decodeFrom none (e ++ bs) = e.map (fun b => Char.ofNat b.toNat) ++ decodeFrom none bs := by
    intro e he
    induction e with
    | nil => rfl
    | cons b e ih =>
      obtain ⟨hb, he⟩ := List.forall_mem_cons.1 he
      have hstep : decodeFrom none (b :: (e ++ bs)) =
          Char.ofNat b.toNat :: decodeFrom none (e ++ bs) := decode_ascii (e ++ bs) hb
      rw [List.cons_append, hstep, ih he]
      rfl
  obtain ⟨b, e, rfl⟩ := List.exists_cons_of_ne_nil hne
  rw [List.append_assoc, ← hnone _ he, List.cons_append,
    decodeFrom_of_lt hheld (he b List.mem_cons_self)]

/-- **The text of a file with other line ends** is its text with other line ends. -/
theorem decode_endLines {e : List UInt8} (hne : e ≠ []) (he : ∀ b ∈ e, b.toNat < 0x80)
    (bs : List UInt8) :
    decode (endLines 10 e bs) =
      endLines '\n' (e.map fun b => Char.ofNat b.toNat) (decode bs) := by
  suffices h : ∀ held, CanHold held → decodeFrom held (endLines 10 e bs) =
      endLines '\n' (e.map fun b => Char.ofNat b.toNat) (decodeFrom held bs) from
    h none canHold_none
  have hbroken : ∀ held, '\n' ∉ brokenOff held := fun held hm =>
    (isHigh_of_mem_brokenOff hm).ne (by decide) rfl
  induction bs with
  | nil => exact fun held _ => (endLines_of_not_mem (hbroken held)).symm
  | cons b bs ih =>
    intro held hheld
    by_cases hb : b = 10
    · have hstep : decodeFrom held (10 :: bs) = brokenOff held ++ '\n' :: decodeFrom none bs :=
        (decodeFrom_ascii hheld (List.cons_ne_nil 10 []) (List.forall_mem_singleton.2 (by decide))
          bs).trans (List.append_assoc _ _ _)
      rw [hb, hstep, endLines_cons_self, decodeFrom_ascii hheld hne he, endLines_append,
        endLines_of_not_mem (hbroken held), endLines_cons_self, ih none canHold_none,
        List.append_assoc]
    · have hne10 : b.toNat ≠ '\n'.toNat := fun h => hb (UInt8.toNat_inj.1 h)
      rw [endLines_cons_of_ne hb, decodeFrom, decodeFrom]
      dsimp only
      rw [endLines_append, endLines_of_not_mem (not_mem_readByte hheld (by decide) hne10),
        ih _ (canHold_readByte hheld b.toNat)]

/-! ## In text -/

theorem unifyNewlines_crlf (s : List Char) :
    unifyNewlines ('\r' :: '\n' :: s) = '\n' :: unifyNewlines s := by
  simp [unifyNewlines]

theorem unifyNewlines_cr {s : List Char} (h : s.head? ≠ some '\n') :
    unifyNewlines ('\r' :: s) = '\n' :: unifyNewlines s := by
  cases s with
  | nil => rfl
  | cons c s => simp [unifyNewlines, show c ≠ '\n' from fun hc => h (congrArg some hc)]

theorem unifyNewlines_cons_of_ne {c : Char} (h : c ≠ '\r') (s : List Char) :
    unifyNewlines (c :: s) = c :: unifyNewlines s := by
  cases s <;> simp [unifyNewlines, h]

/-- **Other line ends are read as line feeds.** -/
theorem unifyNewlines_endLines {e : List Char} (he : e = ['\r', '\n'] ∨ e = ['\r']) {s : List Char}
    (hs : '\r' ∉ s) : unifyNewlines (endLines '\n' e s) = s := by
  induction s with
  | nil => rfl
  | cons c s ih =>
    obtain ⟨hc, hs⟩ := not_or.1 (mt List.mem_cons.2 hs)
    have ih := ih hs
    by_cases hn : c = '\n'
    · rw [hn, endLines_cons_self]
      rcases he with rfl | rfl
      · exact (unifyNewlines_crlf _).trans (congrArg _ ih)
      · refine (unifyNewlines_cr ?_).trans (congrArg _ ih)
        -- no line feed is left that the carriage return could be taken together with
        cases s with
        | nil => simp [endLines]
        | cons d s =>
          by_cases hd : d = '\n'
          · simp [hd, endLines_cons_self]
          · simp [hd, endLines_cons_of_ne hd]
    · rw [endLines_cons_of_ne hn, unifyNewlines_cons_of_ne (Ne.symm hc), ih]

/-- A file with other line ends is read as the same text. -/
theorem readText_endLines {e : List UInt8} (he : e = [13, 10] ∨ e = [13]) {bs : List UInt8}
    (hbs : 13 ∉ bs) : readText (endLines 10 e bs) = readText bs := by
  have hcr : '\r' ∉ decode bs :=
    not_mem_decodeFrom canHold_none (by decide) fun b hb h => by
      have h13 : b = 13 := UInt8.toNat_inj.1 h
      exact hbs (h13 ▸ hb)
  have hends : e ≠ [] ∧ (∀ b ∈ e, b.toNat < 0x80) ∧
      (e.map (fun b => Char.ofNat b.toNat) = ['\r', '\n'] ∨
        e.map (fun b => Char.ofNat b.toNat) = ['\r']) := by
    have hcr : (13 : UInt8).toNat < 0x80 := by decide
    have hlf : (10 : UInt8).toNat < 0x80 := by decide
    rcases he with rfl | rfl
    · exact ⟨nofun, List.forall_mem_cons.2 ⟨hcr, List.forall_mem_singleton.2 hlf⟩, .inl rfl⟩
    · exact ⟨nofun, List.forall_mem_singleton.2 hcr, .inr rfl⟩
  rw [readText, readText, decode_endLines hends.1 hends.2.1,
    unifyNewlines_endLines hends.2.2 hcr, unifyNewlines_of_not_mem hcr]

end Text

/-- Files that read as the same text say the same to an analysis. -/
theorem Analysis.takeFile_congr (a : Analysis) {t u : FileTree} {p : Path} {b c : List UInt8}
    (ht : t.read p = .ok b) (hu : u.read p = .ok c) (h : Text.readText c = Text.readText b) :
    a.takeFile u p = a.takeFile t p := by
  rw [takeFile, takeFile, ht, hu]
  dsimp only
  rw [h]

/-- **Line ends do not matter.**  An analysis takes in the same from a file whose lines end with a
line feed, with a carriage return and a line feed, or with a carriage return. -/
theorem takeFile_endLines (a : Analysis) {t u v : FileTree} {p : Path} {bytes : List UInt8}
    (hbytes : 13 ∉ bytes) (ht : t.read p = .ok bytes)
    (hu : u.read p = .ok (Text.endLines 10 [13, 10] bytes))
    (hv : v.read p = .ok (Text.endLines 10 [13] bytes)) :
    a.takeFile u p = a.takeFile t p ∧ a.takeFile v p = a.takeFile t p :=
  ⟨a.takeFile_congr ht hu (Text.readText_endLines (.inl rfl) hbytes),
    a.takeFile_congr ht hv (Text.readText_endLines (.inr rfl) hbytes)⟩

/-- A project with one file. -/
def oneFileProject (bytes : List UInt8) : FileTree where
  root := .dir [("routes.ts", .file bytes)]

/-- A query client that is created over a line end, behind the beginning of a character. -/
def splitCall : List UInt8 := Text.ascii "new" ++ [10] ++ Text.ascii "QueryClient" ++ [10, 0xE2, 10]

theorem takeFile_endLines_splitCall :
    13 ∉ splitCall ∧ Text.endLines 10 [13, 10] splitCall ≠ splitCall ∧
      Analysis.takeFile { basePath := "/", timestamp := "" }
          (oneFileProject (Text.endLines 10 [13, 10] splitCall)) ⟨.root, ["routes.ts"]⟩ =
        Analysis.takeFile { basePath := "/", timestamp := "" } (oneFileProject splitCall)
          ⟨.root, ["routes.ts"]⟩ :=
  ⟨by decide +kernel, by decide +kernel,
    (takeFile_endLines { basePath := "/", timestamp := "" } (by decide +kernel)
      (t := oneFileProject splitCall) (u := oneFileProject (Text.endLines 10 [13, 10] splitCall))
      (v := oneFileProject (Text.endLines 10 [13] splitCall)) (p := ⟨.root, ["routes.ts"]⟩)
      rfl rfl rfl).1⟩

end RouteAudit
