import NetworkSlice.Proofs.Text.Digit

/-
Addresses that are written and read again, with a stroke and more text after
them.

An address is written in digits of a width, which spell it
(`foldl_digitsOfWidth`), and every digit of the width as a numeral. So reading
is a matter of where each numeral ends: an octet at the point or the stroke, a
group at a colon or the stroke (`AfterGroup`), the last group of a stretch where
the gap or the stroke follows (`AfterGroups`). A stretch of groups is then read
in one go (`readGroups_groups`).

The gap of an address of 128 bits is its longest run of zeros, and what matters
of it is only that it is one (`longestZeroRun_split`): fewer than eight groups
are read with the zeros that are missing between them (`readColon_gap`). The
octets at the end of a mapped address are two more groups
(`readGroups_dottedText`). And no address is read as one of the other family,
because the character after its first numeral is the other one
(`readDotted_colonText`, `readColon_dottedText`).
-/
namespace NetworkSlice

variable {bits len : Nat} {g : Nat} {gs hs ts : List Nat} {c : Char} {rest : List Char}
  {sp : Spelling}

-- ============================================================ digits of a width

/-- The last digit is what the number leaves over. -/
theorem digitsOfWidth_succ (size count bits : Nat) :
    digitsOfWidth size (count + 1) bits
      = digitsOfWidth size count (bits / 2 ^ size) ++ [bits % 2 ^ size] := by
  unfold digitsOfWidth
  rw [List.range_succ, List.map_append, List.map_singleton]
  congr 1
  · refine List.map_congr_left fun i hi => ?_
    have hi : i < count := List.mem_range.mp hi
    rw [Nat.div_div_eq_div_mul, ← Nat.pow_add]
    congr 3
    rw [show count + 1 - 1 - i = (count - 1 - i) + 1 by omega, Nat.mul_add, Nat.mul_one,
      Nat.add_comm]
  · rw [Nat.add_sub_cancel, Nat.sub_self, Nat.mul_zero, Nat.pow_zero, Nat.div_one]

/-- The digits spell the low part of the number. -/
theorem foldl_digitsOfWidth (size count bits : Nat) :
    (digitsOfWidth size count bits).foldl (fun n d => n * 2 ^ size + d) 0
      = bits % 2 ^ (size * count) := by
  induction count generalizing bits with
  | zero => rw [Nat.mul_zero, Nat.pow_zero, Nat.mod_one]; rfl
  | succ count ih =>
      rw [digitsOfWidth_succ, List.foldl_append, ih, List.foldl_cons, List.foldl_nil,
        Nat.mul_succ, Nat.add_comm (size * count), Nat.pow_add, Nat.mod_mul, Nat.mul_comm,
        Nat.add_comm]

theorem length_digitsOfWidth (size count bits : Nat) :
    (digitsOfWidth size count bits).length = count := by
  rw [digitsOfWidth, List.length_map, List.length_range]

theorem lt_of_mem_digitsOfWidth {size count bits d : Nat} (h : d ∈ digitsOfWidth size count bits) :
    d < 2 ^ size := by
  obtain ⟨i, -, rfl⟩ := List.mem_map.mp h
  exact Nat.mod_lt _ (Nat.two_pow_pos size)

/-- Joined pieces: the first, and the others each after a separator. -/
theorem joinWith_cons (sep : Char) (piece : List Char) (pieces : List (List Char)) :
    joinWith sep (piece :: pieces) = piece ++ pieces.flatMap (sep :: ·) := by
  induction pieces generalizing piece with
  | nil => exact (List.append_nil piece).symm
  | cons next rest ih => rw [joinWith, ih, List.flatMap_cons, List.cons_append]; simp

-- ============================================================ octets

theorem stops_stroke (rest : List Char) : Stops 10 ('/' :: rest) := stops_cons (by decide)

/-- An octet is read up to where its numeral stops. -/
theorem readOctet_decimal {n : Nat} (h : n < 256) (hrest : Stops 10 rest) :
    readOctet .block (decimal n ++ rest) = some (n, rest) := by
  unfold readOctet decimal
  rw [readNumber_toDigits (by omega) (by omega) (by omega) (by decide) hrest, if_pos h]
  rfl

/-- Four octets between points are read as the number they spell. -/
theorem readDotted_dottedText (bits : Nat) (hrest : Stops 10 rest) :
    readDotted .block (dottedText bits ++ rest) = some (bits % UInt32.size, rest) := by
  have hvalue := foldl_digitsOfWidth 8 4 bits
  have hlt : ∀ x ∈ digitsOfWidth 8 4 bits, x < 256 := fun x hx => lt_of_mem_digitsOfWidth hx
  unfold dottedText
  obtain ⟨a, b, c, d, hdigits⟩ : ∃ a b c d, digitsOfWidth 8 4 bits = [a, b, c, d] :=
    ⟨_, _, _, _, rfl⟩
  rw [hdigits] at hvalue hlt ⊢
  have hpoint : ∀ cs, Stops 10 ('.' :: cs) := fun cs => stops_cons (by decide)
  simp only [List.map_cons, List.map_nil, joinWith, List.append_assoc, List.cons_append,
    readDotted, readChar, bind, Option.bind, if_pos, pure,
    readOctet_decimal (hlt a (by simp)) (hpoint _), readOctet_decimal (hlt b (by simp)) (hpoint _),
    readOctet_decimal (hlt c (by simp)) (hpoint _), readOctet_decimal (hlt d (by simp)) hrest]
  rw [← show ((a * 256 + b) * 256 + c) * 256 + d = bits % UInt32.size by simpa using hvalue]

/-- What an octet leaves begins where its digits end. -/
theorem rest_of_readOctet {n : Nat} {cs : List Char} (h : readOctet sp cs = some (n, rest)) :
    rest = cs.dropWhile (isDigitOf 10) := by
  unfold readOctet at h
  split at h
  · next hnumber =>
      split at h
      · cases h
      · injection h with h
        injection h with _ h
        exact h ▸ rest_of_readNumber hnumber
  · cases h

/-- No octets are read where the digits that come first are not followed by a
point. -/
theorem readDotted_eq_none {cs : List Char}
    (h : ∀ c ∈ (cs.dropWhile (isDigitOf 10)).head?, c ≠ '.') : readDotted sp cs = none := by
  unfold readDotted
  cases hread : readOctet sp cs with
  | none => rfl
  | some result =>
      rw [← rest_of_readOctet hread] at h
      have hpoint : readChar '.' result.2 = none := by
        cases hrest : result.2 with
        | nil => rfl
        | cons c more => exact if_neg (h c (by rw [hrest]; rfl))
      show (readChar '.' result.2 >>= _) = none
      rw [hpoint]
      rfl

-- ============================================================== groups

/-- What is left where the leading characters of a kind are dropped begins with
another of those before `c`, or with `c`. -/
theorem mem_of_head?_dropWhile {p : Char → Bool} {l : List Char} (hc : p c = false) :
    ∀ x ∈ ((l ++ c :: rest).dropWhile p).head?, x ∈ l ∨ x = c := by
  induction l with
  | nil =>
      intro x hx
      rw [List.nil_append, List.dropWhile_cons_of_neg (by rw [hc]; exact Bool.false_ne_true)] at hx
      exact Or.inr (Option.some.inj hx).symm
  | cons y l ih =>
      intro x hx
      rw [List.cons_append] at hx
      cases hy : p y with
      | true =>
          rw [List.dropWhile_cons_of_pos hy] at hx
          exact (ih x hx).imp_left (List.mem_cons_of_mem y)
      | false =>
          rw [List.dropWhile_cons_of_neg (by rw [hy]; exact Bool.false_ne_true)] at hx
          exact Or.inl ((Option.some.inj hx) ▸ List.mem_cons_self)

/-- After a group comes another, the gap or the stroke. -/
def AfterGroup (cs : List Char) : Prop := ∃ c more, cs = c :: more ∧ (c = ':' ∨ c = '/')

/-- After the last group comes the gap or the stroke. -/
def AfterGroups (cs : List Char) : Prop :=
  (∃ more, cs = '/' :: more) ∨ ∃ more, cs = ':' :: ':' :: more

/-- What may follow a stretch of groups may follow one. -/
theorem AfterGroups.afterGroup (h : AfterGroups rest) : AfterGroup rest := by
  rcases h with ⟨more, rfl⟩ | ⟨more, rfl⟩
  · exact ⟨'/', more, rfl, Or.inr rfl⟩
  · exact ⟨':', _, rfl, Or.inl rfl⟩

theorem AfterGroup.stops (h : AfterGroup rest) : Stops 16 rest := by
  obtain ⟨c, more, rfl, rfl | rfl⟩ := h
  · exact stops_cons (by decide)
  · exact stops_cons (by decide)

/-- More groups may follow a group. -/
theorem afterGroup_groups (gs : List Nat) (hrest : AfterGroup rest) :
    AfterGroup (gs.flatMap (fun g => ':' :: hex g) ++ rest) := by
  cases gs with
  | nil => exact hrest
  | cons g gs => exact ⟨':', _, rfl, Or.inl rfl⟩

/-- Neither a group nor what comes after it is an octet with a point. -/
theorem readDotted_of_afterGroup {l : List Char} (hl : '.' ∉ l) (hrest : AfterGroup rest) :
    readDotted sp (l ++ rest) = none := by
  obtain ⟨c, more, rfl, hc⟩ := hrest
  have hdigit : isDigitOf 10 c = false := by rcases hc with rfl | rfl <;> decide
  apply readDotted_eq_none
  intro x hx hpoint
  rcases mem_of_head?_dropWhile hdigit x hx with hx | rfl
  · exact hl (hpoint ▸ hx)
  · rcases hc with rfl | rfl <;> cases hpoint

theorem point_not_mem_hex : '.' ∉ hex g := by
  intro h
  exact absurd (isDigitOf_of_mem_toDigits (by omega) (by omega) h) (by decide)

/-- A group that is written is read, and reading goes on after it. -/
theorem readGroups_cons (sp : Spelling) (first : Bool) (room : Nat) (hg : g < 0x10000)
    (hrest : AfterGroup rest) :
    readGroups sp first (room + 1) ((if first then [] else [':']) ++ (hex g ++ rest))
      = { readGroups sp false room rest with
          groups := g :: (readGroups sp false room rest).groups } := by
  have hstart : (if first then some ((if first then [] else [':']) ++ (hex g ++ rest))
      else readChar ':' ((if first then [] else [':']) ++ (hex g ++ rest)))
        = some (hex g ++ rest) := by
    cases first <;> rfl
  have hdotted : (if room = 0 then none else readDotted sp (hex g ++ rest)) = none := by
    rw [readDotted_of_afterGroup point_not_mem_hex hrest, ite_self]
  have hnumber : readNumber 16 4 0x10000 (hex g ++ rest) = some (g, rest) := by
    unfold hex
    rw [readNumber_toDigits (by omega) (by omega) (by omega) (by decide) hrest.stops, if_pos hg]
  rw [readGroups, hstart]
  dsimp only
  rw [hdotted]
  dsimp only
  rw [hnumber]

/-- At the gap or the stroke there is no further group. -/
theorem readGroups_of_afterGroups (sp : Spelling) (first : Bool) (room : Nat)
    (hrest : AfterGroups rest) :
    readGroups sp first room rest = ⟨[], false, rest⟩ := by
  cases room with
  | zero => rfl
  | succ room =>
      have hnone : ∀ cs, AfterGroup cs →
          readDotted sp cs = none ∧ readNumber 16 4 0x10000 cs = none :=
        fun cs hcs => ⟨readDotted_of_afterGroup List.not_mem_nil hcs, readNumber_of_stops hcs.stops⟩
      have hstart := hnone rest hrest.afterGroup
      rw [readGroups]
      rcases hrest with ⟨more, rfl⟩ | ⟨more, rfl⟩
      · cases first with
        | false => rfl
        | true => simp [hstart]
      · cases first with
        | false =>
            -- a colon is taken as the one before a group, but the next is no group
            have hnext := hnone (':' :: more) ⟨':', more, rfl, Or.inl rfl⟩
            simp [readChar, hnext]
        | true => simp [hstart]

/-- A stretch of groups is read in one go, after a colon each. -/
theorem readGroups_groups (sp : Spelling) {room : Nat} (hgs : ∀ g ∈ gs, g < 0x10000)
    (hroom : gs.length ≤ room) (hrest : AfterGroups rest) :
    readGroups sp false room (gs.flatMap (fun g => ':' :: hex g) ++ rest) = ⟨gs, false, rest⟩ := by
  induction gs generalizing room with
  | nil => exact readGroups_of_afterGroups sp _ _ hrest
  | cons g gs ih =>
      obtain ⟨room, rfl⟩ : ∃ r, room = r + 1 := ⟨room - 1, by simp at hroom; omega⟩
      have htail := ih (fun g' hg' => hgs g' (List.mem_cons_of_mem g hg')) (by simpa using hroom)
      have hcons := readGroups_cons sp false room (hgs g List.mem_cons_self)
        (afterGroup_groups gs hrest.afterGroup)
      rw [htail] at hcons
      simpa using hcons

/-- So is one that begins without a colon. -/
theorem readGroups_groupsText (sp : Spelling) {room : Nat} (hgs : ∀ g ∈ gs, g < 0x10000)
    (hroom : gs.length ≤ room) (hrest : AfterGroups rest) :
    readGroups sp true room (groupsText gs ++ rest) = ⟨gs, false, rest⟩ := by
  cases gs with
  | nil => exact readGroups_of_afterGroups sp _ _ hrest
  | cons g gs =>
      obtain ⟨room, rfl⟩ : ∃ r, room = r + 1 := ⟨room - 1, by simp at hroom; omega⟩
      have hroom : gs.length ≤ room := by simpa using hroom
      have htail := readGroups_groups sp (fun g' hg' => hgs g' (List.mem_cons_of_mem g hg')) hroom
        hrest
      have hcons := readGroups_cons sp true room (hgs g List.mem_cons_self)
        (afterGroup_groups gs hrest.afterGroup)
      rw [htail] at hcons
      unfold groupsText
      rw [List.map_cons, joinWith_cons, List.flatMap_map, List.append_assoc]
      exact hcons

-- ================================================================ runs

/-- The run of zeros that is left out is one. -/
theorem longestZeroRun_le (groups : List Nat) :
    (longestZeroRun groups).2 ≤ leadingZeros (groups.drop (longestZeroRun groups).1) := by
  unfold longestZeroRun
  refine List.foldlRecOn
    (motive := fun best : Nat × Nat => best.2 ≤ leadingZeros (groups.drop best.1))
    _ _ (Nat.zero_le _) ?_
  intro best hbest i _
  dsimp only
  split
  · exact Nat.le_refl _
  · exact hbest

/-- As many zeros as a list begins with can be written for its beginning. -/
theorem take_eq_replicate {run : Nat} (h : run ≤ leadingZeros gs) :
    gs.take run = List.replicate run 0 := by
  induction gs generalizing run with
  | nil => rw [Nat.le_zero.mp h]; rfl
  | cons g gs ih =>
      cases run with
      | zero => rfl
      | succ run =>
          unfold leadingZeros at h
          by_cases hg : g = 0
          · rw [List.takeWhile_cons_of_pos (by rw [hg]; rfl), List.length_cons] at h
            rw [List.take_succ_cons, ih (Nat.le_of_succ_le_succ h), hg, List.replicate_succ]
          · rw [List.takeWhile_cons_of_neg (by simpa using hg)] at h
            cases h

theorem leadingZeros_le : leadingZeros gs ≤ gs.length := (List.takeWhile_prefix _).length_le

/-- The groups with their longest run of zeros put back. -/
theorem longestZeroRun_split (groups : List Nat) :
    groups.take (longestZeroRun groups).1 ++ List.replicate (longestZeroRun groups).2 0
        ++ groups.drop ((longestZeroRun groups).1 + (longestZeroRun groups).2) = groups := by
  rw [← take_eq_replicate (longestZeroRun_le groups), List.append_assoc, ← List.drop_drop,
    List.take_append_drop, List.take_append_drop]

-- ============================================================== colons

/-- Eight groups are read as the number they spell. -/
theorem readColon_groups (hgs : ∀ g ∈ gs, g < 0x10000) (hlength : gs.length = 8) :
    readColon sp (groupsText gs ++ '/' :: rest)
      = some (gs.foldl (fun n g => n * 0x10000 + g) 0, '/' :: rest) := by
  unfold readColon
  rw [readGroups_groupsText sp hgs (by omega) (Or.inl ⟨rest, rfl⟩)]
  exact if_pos hlength

/-- Groups with a gap after them are read together with those behind it. -/
theorem readColon_of_gap {cs : List Char} {tail : Groups}
    (hhead : readGroups sp true 8 cs = ⟨hs, false, ':' :: ':' :: rest⟩) (hlength : hs.length ≠ 8)
    (htail : readGroups sp true (8 - hs.length - (if sp.emptyGap then 0 else 1)) rest = tail) :
    readColon sp cs
      = some ((hs ++ List.replicate (8 - hs.length - tail.groups.length) 0 ++ tail.groups).foldl
          (fun n g => n * 0x10000 + g) 0, tail.rest) := by
  subst htail
  unfold readColon
  dsimp only
  rw [hhead]
  exact if_neg hlength

/-- So fewer than eight groups are read with zeros in the gap between them. -/
theorem readColon_gap (hhs : ∀ g ∈ hs, g < 0x10000) (hts : ∀ g ∈ ts, g < 0x10000)
    (hlength : hs.length + ts.length < 8) :
    readColon sp (groupsText hs ++ "::".toList ++ groupsText ts ++ '/' :: rest)
      = some ((hs ++ List.replicate (8 - hs.length - ts.length) 0 ++ ts).foldl
          (fun n g => n * 0x10000 + g) 0, '/' :: rest) := by
  have hbefore : hs.length ≤ 8 := by omega
  have hafter : ts.length ≤ 8 - hs.length - (if sp.emptyGap then 0 else 1) := by split <;> omega
  have hhead := readGroups_groupsText sp hhs hbefore (Or.inr ⟨groupsText ts ++ '/' :: rest, rfl⟩)
  have htail := readGroups_groupsText sp hts hafter (Or.inl ⟨rest, rfl⟩)
  rw [List.append_assoc, List.append_assoc]
  exact readColon_of_gap hhead (by omega) htail

/-- An address in groups is read, with a gap or without. -/
theorem readColon_compressedText :
    readColon sp (compressedText bits ++ '/' :: rest)
      = some (bits % 2 ^ Family.v6.width, '/' :: rest) := by
  have hgroups : ∀ g ∈ digitsOfWidth 16 8 bits, g < 0x10000 :=
    fun g hg => lt_of_mem_digitsOfWidth hg
  have hnumber := foldl_digitsOfWidth 16 8 bits
  have hlength := length_digitsOfWidth 16 8 bits
  unfold compressedText
  generalize digitsOfWidth 16 8 bits = groups at hgroups hnumber hlength ⊢
  dsimp only
  have hrun := longestZeroRun_le groups
  have hsplit := longestZeroRun_split groups
  generalize longestZeroRun groups = best at hrun hsplit ⊢
  obtain ⟨start, run⟩ := best
  dsimp only at hrun hsplit ⊢
  split
  · next hlong =>
      -- the run lies in the groups, so what the gap stands for is the run
      have hinside := Nat.le_trans hrun leadingZeros_le
      rw [List.length_drop, hlength] at hinside
      rw [readColon_gap (fun g hg => hgroups g (List.mem_of_mem_take hg))
        (fun g hg => hgroups g (List.mem_of_mem_drop hg)) (by simp [hlength]; omega)]
      rw [show 8 - (groups.take start).length - (groups.drop (start + run)).length = run by
        simp [hlength]; omega]
      rw [hsplit]
      exact congrArg (fun n => some (n, '/' :: rest)) hnumber
  · rw [readColon_groups hgroups hlength]
    exact congrArg (fun n => some (n, '/' :: rest)) hnumber

/-- Octets after a group are read as two groups, and as the last. -/
theorem readGroups_dottedText {room : Nat} :
    readGroups .block false (room + 2) (':' :: (dottedText bits ++ '/' :: rest))
      = ⟨[bits % UInt32.size / 0x10000, bits % UInt32.size % 0x10000], true, '/' :: rest⟩ := by
  have hdotted := readDotted_dottedText bits (stops_stroke rest)
  rw [readGroups]
  simp [readChar, hdotted]

/-- An address that carries a 32-bit one is read. -/
theorem readColon_mapped :
    readColon .block ("::ffff:".toList ++ dottedText bits ++ '/' :: rest)
      = some (0xffff * UInt32.size + bits % UInt32.size, '/' :: rest) := by
  have hhead := readGroups_of_afterGroups .block true 8
    (Or.inr ⟨hex 0xffff ++ ':' :: (dottedText bits ++ '/' :: rest), rfl⟩)
  have htail := readGroups_cons .block true 7 (g := 0xffff) (by omega)
    ⟨':', dottedText bits ++ '/' :: rest, rfl, Or.inl rfl⟩
  rw [readGroups_dottedText] at htail
  rw [List.append_assoc]
  refine (readColon_of_gap hhead (by decide) htail).trans ?_
  have hvalue : (0xffff0000 + bits % UInt32.size / 0x10000) * 0x10000 + bits % UInt32.size % 0x10000
      = 0xffff * UInt32.size + bits % UInt32.size := by
    unfold UInt32.size
    omega
  simpa using hvalue

-- ============================================================ addresses

/-- Groups are no octets. -/
theorem readDotted_groupsText (hrest : AfterGroups rest) :
    readDotted sp (groupsText gs ++ rest) = none := by
  cases gs with
  | nil => exact readDotted_of_afterGroup List.not_mem_nil hrest.afterGroup
  | cons g gs =>
      unfold groupsText
      rw [List.map_cons, joinWith_cons, List.flatMap_map, List.append_assoc]
      exact readDotted_of_afterGroup point_not_mem_hex (afterGroup_groups gs hrest.afterGroup)

/-- So an address with colons is none with points. -/
theorem readDotted_colonText : readDotted sp (colonText bits ++ '/' :: rest) = none := by
  unfold colonText
  split
  · exact readDotted_of_afterGroup (l := []) List.not_mem_nil ⟨':', _, rfl, Or.inl rfl⟩
  · unfold compressedText
    dsimp only
    split
    · rw [List.append_assoc, List.append_assoc]
      exact readDotted_groupsText (Or.inr ⟨_, rfl⟩)
    · exact readDotted_groupsText (Or.inl ⟨_, rfl⟩)

/-- And it is read as its number, gap or no gap, mapped or not. -/
theorem readColon_colonText (h : bits < 2 ^ Family.v6.width) (rest : List Char) :
    readColon .block (colonText bits ++ '/' :: rest) = some (bits, '/' :: rest) := by
  unfold colonText
  split
  · next hmapped =>
      rw [readColon_mapped, ← hmapped, Nat.mul_comm, Nat.div_add_mod]
  · rw [readColon_compressedText, Nat.mod_eq_of_lt h]

/-- An address with points is none with colons. -/
theorem readColon_dottedText : readColon .block (dottedText bits ++ '/' :: rest) = none := by
  have hdotted := readDotted_dottedText bits (stops_stroke rest)
  unfold readColon
  rw [readGroups]
  simp [hdotted]

-- ============================================================ characters

/-- The characters of addresses: digits, and what stands between them. -/
def AddressChar (x : Char) : Prop := isDigitOf 16 x = true ∨ x = '.' ∨ x = ':'

/-- No character of an address is blank. -/
theorem AddressChar.isBlank {x : Char} (h : AddressChar x) : Text.isBlank x = false := by
  rcases h with h | rfl | rfl
  · exact isBlank_of_isDigitOf (by omega) h
  · decide
  · decide

theorem addressChar_of_mem_decimal {n : Nat} {x : Char} (h : x ∈ decimal n) : AddressChar x := by
  have hdigit := isDigitOf_of_mem_toDigits (by omega) (by omega) h
  unfold isDigitOf at hdigit
  rw [decide_eq_true_eq] at hdigit
  exact Or.inl (decide_eq_true (by omega))

theorem addressChar_of_mem_joinWith {sep x : Char} {pieces : List (List Char)}
    (hsep : AddressChar sep) (hpieces : ∀ piece ∈ pieces, ∀ y ∈ piece, AddressChar y)
    (hx : x ∈ joinWith sep pieces) : AddressChar x := by
  cases pieces with
  | nil => cases hx
  | cons piece pieces =>
      rw [joinWith_cons] at hx
      rcases List.mem_append.mp hx with hx | hx
      · exact hpieces piece List.mem_cons_self x hx
      · obtain ⟨piece', hpiece', hx⟩ := List.mem_flatMap.mp hx
        rcases List.mem_cons.mp hx with rfl | hx
        · exact hsep
        · exact hpieces piece' (List.mem_cons_of_mem piece hpiece') x hx

/-- In an address with points there are no others. -/
theorem addressChar_of_mem_dottedText {x : Char} (h : x ∈ dottedText bits) : AddressChar x := by
  refine addressChar_of_mem_joinWith (Or.inr (Or.inl rfl)) ?_ h
  intro piece hpiece
  obtain ⟨n, -, rfl⟩ := List.mem_map.mp hpiece
  exact fun y hy => addressChar_of_mem_decimal hy

theorem addressChar_of_mem_groupsText {x : Char} (h : x ∈ groupsText gs) : AddressChar x := by
  refine addressChar_of_mem_joinWith (Or.inr (Or.inr rfl)) ?_ h
  intro piece hpiece
  obtain ⟨n, -, rfl⟩ := List.mem_map.mp hpiece
  exact fun y hy => Or.inl (isDigitOf_of_mem_toDigits (by omega) (by omega) hy)

/-- Nor in one with colons. -/
theorem addressChar_of_mem_colonText {x : Char} (h : x ∈ colonText bits) : AddressChar x := by
  have hcolon : ∀ y ∈ "::".toList, AddressChar y := by
    intro y hy
    rw [show y = ':' by simpa using hy]
    exact Or.inr (Or.inr rfl)
  unfold colonText at h
  split at h
  · rcases List.mem_append.mp h with h | h
    · have hgroup : "::ffff:".toList = "::".toList ++ groupsText [0xffff] ++ [':'] := by decide
      rw [hgroup] at h
      rcases List.mem_append.mp h with h | h
      · rcases List.mem_append.mp h with h | h
        · exact hcolon x h
        · exact addressChar_of_mem_groupsText h
      · exact Or.inr (Or.inr (List.mem_singleton.mp h))
    · exact addressChar_of_mem_dottedText h
  · unfold compressedText at h
    dsimp only at h
    split at h
    · rcases List.mem_append.mp h with h | h
      · rcases List.mem_append.mp h with h | h
        · exact addressChar_of_mem_groupsText h
        · exact hcolon x h
      · exact addressChar_of_mem_groupsText h
    · exact addressChar_of_mem_groupsText h

/-- So addresses of both families are made of these. -/
theorem Addr.addressChar_of_mem_chars {a : Addr} {x : Char} (h : x ∈ a.chars) :
    AddressChar x := by
  unfold chars at h
  split at h
  · exact addressChar_of_mem_dottedText h
  · exact addressChar_of_mem_colonText h

end NetworkSlice
