import ApiTypes.Proofs.Text.Infix
import ApiTypes.Value.Display

/-!
# Texts of one line

A line ends at a line feed or at a carriage return, and a text of one line has neither
(`ApiTypes.Text.OneLine`). The displayed form of a value is always of one line, since both are
escaped in it (`ApiTypes.Value.oneLine_display`). So the text of a value has an end of a line only
if the value is a string that has one: `ApiTypes.Value.oneLine_literalText`.
-/

namespace ApiTypes

namespace Text

/-- **A text of one line**: it has no line feed and no carriage return. -/
def OneLine (t : Text) : Prop := ∀ c ∈ t, c ≠ '\n' ∧ c ≠ '\r'

instance : DecidablePred OneLine := fun t =>
  inferInstanceAs (Decidable (∀ c ∈ t, c ≠ '\n' ∧ c ≠ '\r'))

variable {t u : Text} {c q : Char}

/-! ### Putting texts together -/

@[simp]
theorem oneLine_nil : OneLine [] := by simp [OneLine]

@[simp]
theorem oneLine_cons : OneLine (c :: t) ↔ (c ≠ '\n' ∧ c ≠ '\r') ∧ OneLine t := by simp [OneLine]

@[simp]
theorem oneLine_append : OneLine (t ++ u) ↔ OneLine t ∧ OneLine u := by
  rw [OneLine, OneLine, OneLine, List.forall_mem_append]

theorem OneLine.append (ht : OneLine t) (hu : OneLine u) : OneLine (t ++ u) :=
  oneLine_append.2 ⟨ht, hu⟩

theorem OneLine.flatMap {α : Type} {f : α → Text} (h : ∀ a, OneLine (f a)) (l : List α) :
    OneLine (l.flatMap f) := by
  induction l with
  | nil => exact oneLine_nil
  | cons a l ih => simp [h a, ih]

theorem OneLine.join {sep : Text} (hsep : OneLine sep) {ts : List Text}
    (h : ∀ t ∈ ts, OneLine t) : OneLine (Text.join sep ts) := by
  fun_induction Text.join sep ts with
  | case1 => exact oneLine_nil
  | case2 t => exact h t List.mem_cons_self
  | case3 t u ts ih =>
    simp only [oneLine_append]
    exact ⟨⟨h t List.mem_cons_self, hsep⟩, ih fun v hv => h v (List.mem_cons_of_mem _ hv)⟩

/-! ### Numerals -/

theorem oneLine_toDigits {base : Nat} (hbase : 1 < base) (n : Nat) :
    OneLine (Nat.toDigits base n) := by
  have hdigit : ∀ d : Nat, OneLine [d.digitChar] := fun d => by simp
  induction n using Nat.strongRecOn with
  | _ n ih =>
    rw [Nat.toDigits_eq_if hbase]
    split
    · exact hdigit n
    · next hle =>
      rw [oneLine_append]
      exact ⟨ih _ (Nat.div_lt_self (by omega) hbase), hdigit _⟩

@[simp]
theorem oneLine_ofNat (n : Nat) : OneLine (ofNat n) := oneLine_toDigits (by decide) n

@[simp]
theorem oneLine_ofInt (n : Int) : OneLine (ofInt n) := by
  unfold ofInt
  split <;> simp

@[simp]
theorem oneLine_replicate_zero (n : Nat) : OneLine (List.replicate n '0') := by
  intro c hc
  rw [List.eq_of_mem_replicate hc]
  decide

@[simp]
theorem oneLine_zeroFill {width : Nat} : OneLine (zeroFill width t) ↔ OneLine t := by
  simp [zeroFill]

@[simp]
theorem oneLine_hex (width n : Nat) : OneLine (hex width n) := by
  rw [hex, oneLine_zeroFill]
  exact oneLine_toDigits (by decide) n

/-! ### Displayed strings -/

theorem oneLine_displayChar (hq : q ≠ '\n' ∧ q ≠ '\r') (c : Char) : OneLine (displayChar q c) := by
  unfold displayChar
  dsimp only
  repeat' split
  · next h =>
    rcases h with rfl | rfl
    · simp [hq]
    · simp
  · simp
  · simp
  · simp
  · next hn hr _ _ => simp [hn, hr]
  all_goals simp

theorem displayQuote_ne (t : Text) : displayQuote t ≠ '\n' ∧ displayQuote t ≠ '\r' := by
  unfold displayQuote
  split <;> decide

@[simp]
theorem oneLine_display (t : Text) : OneLine (display t) := by
  have hq := displayQuote_ne t
  simp only [display, oneLine_cons, oneLine_append]
  exact ⟨hq, .flatMap (oneLine_displayChar hq) t, hq, oneLine_nil⟩

theorem oneLine_displayByte (hq : q ≠ '\n' ∧ q ≠ '\r') (b : UInt8) : OneLine (displayByte q b) := by
  unfold displayByte
  dsimp only
  repeat' split
  · simp
  · exact oneLine_displayChar hq _
  · simp

@[simp]
theorem oneLine_displayBytes (bs : List UInt8) : OneLine (displayBytes bs) := by
  have hq := displayQuote_ne (bs.map fun b => Char.ofNat b.toNat)
  simp only [displayBytes, oneLine_cons, oneLine_append]
  exact ⟨by decide, hq, .flatMap (oneLine_displayByte hq) bs, hq, oneLine_nil⟩

theorem oneLine_separator : OneLine [',', ' '] := by decide

end Text

open Text

/-! ### Dates and doubles -/

theorem Date.oneLine_text (d : Date) : OneLine d.text := by simp [Date.text]

theorem Date.oneLine_display (d : Date) : OneLine d.display := by
  have hname : OneLine "datetime.date(".toList := by decide +kernel
  exact (hname.append (.join oneLine_separator (by simp))).append (by decide)

namespace Moment

theorem oneLine_text (t : Moment) : OneLine t.text := by
  have hoffset : ∀ m, OneLine (offsetText m) := fun m => by
    unfold offsetText
    dsimp only
    split <;> simp
  simp only [text, oneLine_append]
  refine ⟨⟨?_, ?_⟩, ?_⟩
  · simp [Date.oneLine_text]
  · split <;> simp
  · split
    · exact hoffset _
    · exact oneLine_nil

theorem oneLine_displayDuration (minutes : Int) : OneLine (displayDuration minutes) := by
  have hname : OneLine "datetime.timedelta(".toList := by decide +kernel
  have hdays : OneLine "days=".toList := by decide +kernel
  have hseconds : OneLine "seconds=".toList := by decide +kernel
  have hinside : ∀ parts : List Text, (∀ t ∈ parts, OneLine t) →
      OneLine (if parts.isEmpty then ['0'] else Text.join [',', ' '] parts) := by
    intro parts hparts
    split
    · decide
    · exact .join oneLine_separator hparts
  refine (hname.append (hinside _ fun t ht => ?_)).append (by decide)
  rcases List.mem_append.1 ht with ht | ht
  · split at ht
    · exact absurd ht (by simp)
    · rw [List.mem_singleton.1 ht]
      exact hdays.append (oneLine_ofInt _)
  · split at ht
    · exact absurd ht (by simp)
    · rw [List.mem_singleton.1 ht]
      exact hseconds.append (oneLine_ofInt _)

theorem oneLine_displayOffset (minutes : Int) : OneLine (displayOffset minutes) := by
  have hutc : OneLine "datetime.timezone.utc".toList := by decide +kernel
  have hname : OneLine "datetime.timezone(".toList := by decide +kernel
  unfold displayOffset
  split
  · exact hutc
  · exact (hname.append (oneLine_displayDuration minutes)).append (by decide)

theorem oneLine_display (t : Moment) : OneLine t.display := by
  have hname : OneLine "datetime.datetime(".toList := by decide +kernel
  have hzone : OneLine "tzinfo=".toList := by decide +kernel
  refine (hname.append (.join oneLine_separator fun u hu => ?_)).append (by decide)
  rw [List.mem_append] at hu
  rcases hu with hu | hu
  · obtain ⟨n, -, rfl⟩ := List.mem_map.1 hu
    exact oneLine_ofNat n
  · split at hu
    · rw [List.mem_singleton.1 hu]
      exact hzone.append (oneLine_displayOffset _)
    · exact absurd hu (by simp)

end Moment

theorem Decimal.Layout.oneLine_digits (l : Layout) {ds : Text} (h : OneLine ds) (e : Int) :
    OneLine (l.digits ds e) := by
  have htake : ∀ n, OneLine (ds.take n) := fun n c hc => h c (List.mem_of_mem_take hc)
  have hdrop : ∀ n, OneLine (ds.drop n) := fun n c hc => h c (List.mem_of_mem_drop hc)
  unfold Layout.digits
  dsimp only
  split
  · repeat' split
    all_goals simp [h, htake, hdrop]
  · rw [oneLine_append, oneLine_cons, oneLine_cons, oneLine_zeroFill]
    refine ⟨?_, by decide, ?_, oneLine_ofNat _⟩
    · split
      · exact oneLine_nil
      · exact h
      · simpa using h
    · split <;> decide

namespace Value

theorem oneLine_floatText (x : Float) : OneLine (floatText x) := by
  have hinfinity : OneLine floatLayout.infinity := by decide
  have hnan : OneLine floatLayout.nan := by decide
  unfold floatText Decimal.Layout.text
  split
  · exact hnan
  · split <;> simp [hinfinity]
  · split <;> decide
  · next negative d _ =>
    dsimp only
    have hdigits := Decimal.Layout.oneLine_digits floatLayout (oneLine_ofNat d.shortest.1)
    split
    · simp [hdigits]
    · exact hdigits _

mutual

/-- **The displayed form of a value is of one line.** -/
theorem oneLine_display (v : Value) : OneLine v.display := by
  match v with
  | null => rw [display]; decide +kernel
  | bool b => rw [display]; split <;> decide +kernel
  | int n => rw [display]; exact oneLine_ofInt n
  | float x => rw [display]; exact oneLine_floatText x
  | nan _ => rw [display]; decide
  | str s => rw [display]; exact Text.oneLine_display _
  | list items =>
    rw [display, oneLine_cons, oneLine_append]
    exact ⟨by decide, .join oneLine_separator (oneLine_displayItems items), by decide⟩
  | map entries =>
    rw [display, oneLine_cons, oneLine_append]
    exact ⟨by decide, .join oneLine_separator (oneLine_displayEntries entries), by decide⟩
  | date d => rw [display]; exact d.oneLine_display
  | moment t => rw [display]; exact t.oneLine_display
  | bytes bs => rw [display]; exact oneLine_displayBytes bs
  | set [] => rw [display]; decide +kernel
  | set (v :: vs) =>
    rw [display, oneLine_cons, oneLine_append]
    refine ⟨by decide, .join oneLine_separator ?_, by decide⟩
    rw [List.forall_mem_cons]
    exact ⟨oneLine_display v, oneLine_displayItems vs⟩
  | pair a b =>
    rw [display, oneLine_cons]
    simp only [oneLine_append]
    exact ⟨by decide, ⟨⟨oneLine_display a, by decide⟩, oneLine_display b⟩, by decide⟩

theorem oneLine_displayItems (items : List Value) : ∀ t ∈ displayItems items, OneLine t := by
  match items with
  | [] => simp [displayItems]
  | v :: rest =>
    rw [displayItems, List.forall_mem_cons]
    exact ⟨oneLine_display v, oneLine_displayItems rest⟩

theorem oneLine_displayEntries (entries : List (Value × Value)) :
    ∀ t ∈ displayEntries entries, OneLine t := by
  match entries with
  | [] => simp [displayEntries]
  | (k, v) :: rest =>
    rw [displayEntries, List.forall_mem_cons, oneLine_append, oneLine_append]
    exact ⟨⟨⟨oneLine_display k, by decide⟩, oneLine_display v⟩, oneLine_displayEntries rest⟩

end

/-- **The text of a value is of one line** unless the value is a string that is not. -/
theorem oneLine_literalText (v : Value) :
    OneLine v.literalText ↔ ∀ s, v = .str s → OneLine s.toList := by
  cases v with
  | str s => exact ⟨fun h s' heq => (Value.str.inj heq) ▸ h, fun h => h s rfl⟩
  | null => exact ⟨fun _ s heq => absurd heq (by simp), fun _ => by decide +kernel⟩
  | bool b =>
    refine ⟨fun _ s heq => absurd heq (by simp), fun _ => ?_⟩
    cases b <;> decide +kernel
  | date d => exact ⟨fun _ s heq => absurd heq (by simp), fun _ => d.oneLine_text⟩
  | moment t => exact ⟨fun _ s heq => absurd heq (by simp), fun _ => t.oneLine_text⟩
  | _ => exact ⟨fun _ s heq => absurd heq (by simp), fun _ => oneLine_display _⟩

end Value

end ApiTypes
