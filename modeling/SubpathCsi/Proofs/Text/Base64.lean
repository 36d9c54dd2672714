import SubpathCsi.Text.Base64

/-!
# Base 64 is read back

Reading undoes writing: the octets of a group of letters are the ones that were written, and no
letter is taken for the sign that fills the last group. So a text goes through base 64 as it is,
whatever characters are in it.

* `Base64.decode?_encode`: the octets;
* `Base64.toString?_ofString`: the text.
-/

namespace SubpathCsi.Base64

/-! ### Letters -/

/-- The number of the letter for `n` is `n` again, below 64. -/
theorem value?_letter (n : Nat) : value? (letter n) = some (n % 64) := by
  have hall : ∀ i < 64, value? (letters.getD i 'A') = some i := by decide
  exact hall _ (Nat.mod_lt n (by decide))

/-- The sign that fills the last group is no letter. -/
theorem letter_ne_equals (n : Nat) : letter n ≠ '=' := by
  intro h
  have hvalue := value?_letter n
  rw [h] at hvalue
  exact absurd hvalue nofun

/-! ### Groups -/

/-- The octet of a number is told by its last eight bits. -/
theorem ofNat_eq {n : Nat} {a : UInt8} (h : n % 256 = a.toNat) : UInt8.ofNat n = a := by
  rw [← UInt8.toNat_inj, UInt8.toNat_ofNat']
  exact h

/-- A group with two signs at its end stands for one octet. -/
theorem decode?_two (a b : Nat) :
    decode? [letter a, letter b, '=', '='] =
      some [UInt8.ofNat ((a % 64 * 64 + b % 64) / 16)] := by
  simp only [decode?, value?_letter]
  rfl

/-- A group with one sign at its end stands for two octets. -/
theorem decode?_three (a b c : Nat) :
    decode? [letter a, letter b, letter c, '='] =
      some [UInt8.ofNat (((a % 64 * 64 + b % 64) * 64 + c % 64) / 1024),
        UInt8.ofNat (((a % 64 * 64 + b % 64) * 64 + c % 64) / 4)] := by
  rw [decode?]
  · simp only [value?_letter]
    rfl
  · exact letter_ne_equals c

/-- A group of four letters stands for three octets, whatever follows. -/
theorem decode?_four {a b c d n : Nat}
    (hn : ((a % 64 * 64 + b % 64) * 64 + c % 64) * 64 + d % 64 = n) (rest : List Char) :
    decode? (letter a :: letter b :: letter c :: letter d :: rest) = (decode? rest).map fun bs =>
      UInt8.ofNat (n / 65536) :: UInt8.ofNat (n / 256) :: UInt8.ofNat n :: bs := by
  have hd := letter_ne_equals d
  subst hn
  rw [decode?]
  · simp only [value?_letter]
    cases decode? rest <;> rfl
  · exact fun _ h _ => hd h
  · exact fun h _ => hd h

/-- **Octets.** What is written with letters is read back. -/
theorem decode?_encode (bs : List UInt8) : decode? (encode bs) = some bs := by
  fun_induction encode bs with
  | case1 => rfl
  | case2 a n =>
    have ha := a.toNat_lt
    rw [decode?_two, ofNat_eq (a := a) (by omega)]
  | case3 a b n =>
    have ha := a.toNat_lt
    have hb := b.toNat_lt
    rw [decode?_three, ofNat_eq (a := a) (by omega), ofNat_eq (a := b) (by omega)]
  | case4 a b c rest n ih =>
    have ha := a.toNat_lt
    have hb := b.toNat_lt
    have hc := c.toNat_lt
    have hn : ((n / 262144 % 64 * 64 + n / 4096 % 64) * 64 + n / 64 % 64) * 64 + n % 64 = n := by
      omega
    rw [decode?_four hn, ih, Option.map_some, ofNat_eq (a := a) (by omega),
      ofNat_eq (a := b) (by omega), ofNat_eq (a := c) (by omega)]

/-! ### Texts -/

/-- The octets of an array, from a place on. -/
theorem toList_loop_eq (bs : ByteArray) (i : Nat) (seen : List UInt8) :
    ByteArray.toList.loop bs i seen = seen.reverse ++ bs.data.toList.drop i := by
  fun_induction ByteArray.toList.loop bs i seen with
  | case1 i seen hlt ih =>
    have hi : i < bs.data.toList.length := hlt
    have hget : bs.get! i = bs.data.toList[i] := getElem!_pos bs.data i hlt
    rw [ih, List.drop_eq_getElem_cons hi, hget, List.reverse_cons, List.append_assoc]
    rfl
  | case2 i seen hge =>
    have hi : bs.data.toList.length ≤ i := Nat.not_lt.mp hge
    rw [List.drop_eq_nil_of_le hi, List.append_nil]

/-- The octets of a text make the text. -/
theorem fromUTF8?_octets (s : String) :
    String.fromUTF8? (ByteArray.mk (octets s).toArray) = some s := by
  have hbytes : ByteArray.mk (octets s).toArray = s.toByteArray := by
    rw [octets, ByteArray.toList, toList_loop_eq]
    rfl
  rw [hbytes, String.fromUTF8?, dif_pos s.isValidUTF8]
  rfl

/-- **Texts.** What is written in base 64 is read back. -/
theorem toString?_ofString (s : String) : toString? (ofString s) = some s := by
  rw [toString?, ofString, String.toList_ofList, decode?_encode]
  exact fromUTF8?_octets s

end SubpathCsi.Base64
