import PageSession.Exchange.Framing

/-!
Bodies in a stream of bytes. What `readBody` takes from the front of some bytes is a body behind its
length (`readBody_eq_body_iff`), so the same bytes always fall into the same bodies, and a stream
that goes on only gets more of them. Where a stream falls into bodies is said without the reader
(`IsCut`); there is exactly one such cut, the one that `bodies` makes.
-/
namespace PageSession.Exchange

/-! ## Lengths -/

@[simp] theorem size_lengthBytes (n : Nat) : (lengthBytes n).size = 4 := rfl

def ofFour (a b c d : UInt8) : Nat :=
  a.toNat + 0x100 * b.toNat + 0x10000 * c.toNat + 0x1000000 * d.toNat

theorem ofFour_lengthBytes {n : Nat} (small : n < UInt32.size) :
    ofFour (UInt8.ofNat n) (UInt8.ofNat (n / 0x100)) (UInt8.ofNat (n / 0x10000))
      (UInt8.ofNat (n / 0x1000000)) = n := by
  simp only [UInt32.size] at small
  simp only [ofFour, UInt8.toNat_ofNat']
  omega

theorem ofFour_lt (a b c d : UInt8) : ofFour a b c d < UInt32.size := by
  have ha := a.toNat_lt
  have hb := b.toNat_lt
  have hc := c.toNat_lt
  have hd := d.toNat_lt
  simp only [ofFour, UInt32.size]
  omega

theorem lengthBytes_ofFour (a b c d : UInt8) : lengthBytes (ofFour a b c d) = ⟨#[a, b, c, d]⟩ := by
  have ha := a.toNat_lt
  have hb := b.toNat_lt
  have hc := c.toNat_lt
  have hd := d.toNat_lt
  have byte {n : Nat} {u : UInt8} (same : n % 256 = u.toNat) : UInt8.ofNat n = u :=
    UInt8.toNat_inj.mp (by rw [UInt8.toNat_ofNat', same])
  have first : UInt8.ofNat (ofFour a b c d) = a := byte (by simp only [ofFour]; omega)
  have second : UInt8.ofNat (ofFour a b c d / 0x100) = b := byte (by simp only [ofFour]; omega)
  have third : UInt8.ofNat (ofFour a b c d / 0x10000) = c := byte (by simp only [ofFour]; omega)
  have fourth : UInt8.ofNat (ofFour a b c d / 0x1000000) = d :=
    byte (by simp only [ofFour]; omega)
  rw [lengthBytes, first, second, third, fourth]

/-- The length in front of some bytes is read back. -/
theorem length?_lengthBytes_append {n : Nat} (small : n < UInt32.size) (more : ByteArray) :
    length? (lengthBytes n ++ more) = some n := by
  have inside : 4 ≤ (lengthBytes n ++ more).size := by simp
  have front (i : Nat) (low : i < 4) :
      (lengthBytes n ++ more)[i] = (lengthBytes n)[i] :=
    ByteArray.getElem_append_left low
  have value := ofFour_lengthBytes small
  simp only [ofFour] at value
  rw [length?, dif_pos inside, front 0 (by omega), front 1 (by omega), front 2 (by omega),
    front 3 (by omega)]
  simp only [lengthBytes, ByteArray.getElem_eq_getElem_data, List.getElem_toArray,
    List.getElem_cons_zero, List.getElem_cons_succ, value]

/-- A length that is read stands in front of the rest. -/
theorem eq_lengthBytes_append_of_length? {bytes : ByteArray} {n : Nat}
    (found : length? bytes = some n) :
    n < UInt32.size ∧ bytes = lengthBytes n ++ bytes.extract 4 bytes.size := by
  unfold length? at found
  split at found
  · rename_i inside
    injection found with found
    have same : n = ofFour bytes[0] bytes[1] bytes[2] bytes[3] := found.symm
    have front : bytes.extract 0 4 = lengthBytes n := by
      rw [same, lengthBytes_ofFour]
      exact ByteArray.extract_add_four (by omega)
    refine ⟨same ▸ ofFour_lt _ _ _ _, ?_⟩
    rw [← front, ByteArray.extract_append_extract]
    simp [Nat.max_eq_right inside]
  · cases found

/-! ## One body -/

/-- A body behind its length. -/
def bundle (body : ByteArray) : ByteArray := lengthBytes body.size ++ body

theorem framed_eq_ok_iff {body bytes : ByteArray} :
    framed body = .ok bytes ↔ body.size ≤ frameLimit ∧ bytes = bundle body := by
  unfold framed bundle
  split
  · rename_i within
    simp [within, eq_comm]
  · rename_i large
    simp [large]

@[simp] theorem size_bundle (body : ByteArray) : (bundle body).size = 4 + body.size := by
  simp [bundle]

theorem lt_of_within {n : Nat} (within : n ≤ frameLimit) : n < UInt32.size := by
  simp only [frameLimit] at within
  simp only [UInt32.size]
  omega

theorem length?_bundle_append {body : ByteArray} (within : body.size ≤ frameLimit)
    (more : ByteArray) : length? (bundle body ++ more) = some body.size := by
  rw [bundle, ByteArray.append_assoc]
  exact length?_lengthBytes_append (lt_of_within within) _

/-- A body within the limit that has arrived whole is read, whatever may still come. -/
theorem readBody_bundle_append {body : ByteArray} (within : body.size ≤ frameLimit)
    (more : ByteArray) (supply : Supply) :
    readBody (bundle body ++ more) supply = .body body more := by
  have whole : ¬(bundle body ++ more).size < 4 + body.size := by simp
  have back : (bundle body ++ more).extract 4 (4 + body.size) = body := by
    rw [bundle, ByteArray.append_assoc, ← Nat.add_zero 4, Nat.add_assoc,
      ByteArray.extract_append_size_add' (size_lengthBytes body.size).symm, Nat.zero_add]
    exact ByteArray.extract_append_eq_left rfl
  have rest : (bundle body ++ more).extract (4 + body.size) (bundle body ++ more).size = more := by
    apply ByteArray.extract_append_eq_right <;> simp
  simp only [readBody, length?_bundle_append within, Nat.not_lt.mpr within, if_false, whole, back,
    rest]

/-- What is read is a body within the limit at the front of what has arrived. -/
theorem readBody_eq_body_iff {arrived body rest : ByteArray} {supply : Supply} :
    readBody arrived supply = .body body rest ↔
      body.size ≤ frameLimit ∧ arrived = bundle body ++ rest := by
  constructor
  · intro read
    unfold readBody at read
    cases found : length? arrived with
    | none => cases supply <;> simp [found] at read
    | some n =>
      obtain ⟨-, sum⟩ := eq_lengthBytes_append_of_length? found
      simp only [found] at read
      split at read
      · cases read
      · rename_i within
        split at read
        · cases supply <;> simp at read
        · rename_i whole
          injection read with bodyEq restEq
          have size : body.size = n := by
            rw [← bodyEq, ByteArray.size_extract]
            omega
          refine ⟨by omega, ?_⟩
          rw [bundle, size, ByteArray.append_assoc, ← bodyEq, ← restEq,
            ByteArray.extract_append_extract, Nat.min_eq_left (by omega),
            Nat.max_eq_right (by omega)]
          exact sum
  · rintro ⟨within, rfl⟩
    exact readBody_bundle_append within rest supply

/-! ## Many bodies -/

def train : List ByteArray → ByteArray
  | [] => .empty
  | body :: rest => bundle body ++ train rest

@[simp] theorem train_append (front behind : List ByteArray) :
    train (front ++ behind) = train front ++ train behind := by
  induction front with
  | nil => simp [train]
  | cons body front ih => simp [train, ih, ByteArray.append_assoc]

@[simp] theorem train_singleton (body : ByteArray) : train [body] = bundle body := by
  simp [train]

/-- No body within the limit stands whole at the front of some bytes. -/
def IsStuck (bytes : ByteArray) : Prop :=
  ∀ body more, body.size ≤ frameLimit → bytes ≠ bundle body ++ more

/-- Some bytes cut into the bodies at their front, each within the limit, and the rest. -/
structure IsCut (bytes : ByteArray) (cut : List ByteArray) (rest : ByteArray) : Prop where
  sum : bytes = train cut ++ rest
  within : ∀ body ∈ cut, body.size ≤ frameLimit
  stuck : IsStuck rest

theorem isStuck_iff {bytes : ByteArray} (supply : Supply) :
    IsStuck bytes ↔ ∀ body rest, readBody bytes supply ≠ .body body rest := by
  simp only [IsStuck, ne_eq, readBody_eq_body_iff, not_and]

/-- The bodies in front of some bytes come first among the bodies of the whole. -/
theorem bodies_train_append {front : List ByteArray}
    (within : ∀ body ∈ front, body.size ≤ frameLimit) (more : ByteArray) :
    bodies (train front ++ more) = (front ++ (bodies more).1, (bodies more).2) := by
  induction front with
  | nil => simp [train]
  | cons body front ih =>
    have read : readBody (train (body :: front) ++ more) .flowing =
        .body body (train front ++ more) := by
      rw [train, ByteArray.append_assoc]
      exact readBody_bundle_append (within body (by simp)) _ _
    rw [bodies]
    split
    · rename_i first rest found
      rw [read] at found
      injection found with bodyEq restEq
      rw [← bodyEq, ← restEq, ih fun other inside => within other (by simp [inside])]
      rfl
    · rename_i none
      exact absurd read (none _ _)

/-- Where reading ends, no body stands whole at the front, nor will one when more bytes come. -/
theorem isStuck_append_of_end {arrived more : ByteArray} {supply : Supply}
    (ends : readBody arrived supply = .finished ∨
      ∃ failure, readBody arrived supply = .failed failure)
    (quiet : supply = .flowing ∨ more = .empty) : IsStuck (arrived ++ more) := by
  rcases quiet with rfl | rfl
  · unfold readBody at ends
    cases found : length? arrived with
    | none => simp [found] at ends
    | some n =>
      simp only [found] at ends
      split at ends
      · -- A length above the limit stays at the front whatever comes behind it.
        rename_i large
        obtain ⟨small, sum⟩ := eq_lengthBytes_append_of_length? found
        intro body rest within same
        rw [sum, ByteArray.append_assoc] at same
        have here := length?_lengthBytes_append small (arrived.extract 4 arrived.size ++ more)
        rw [same, length?_bundle_append within] at here
        injection here with here
        omega
      · split at ends <;> simp at ends
  · rw [ByteArray.append_empty, isStuck_iff supply]
    rcases ends with ends | ⟨failure, ends⟩ <;> simp [ends]

theorem bodies_of_isStuck {bytes : ByteArray} (stuck : IsStuck bytes) :
    bodies bytes = ([], bytes) := by
  rw [bodies]
  split
  · rename_i body rest found
    exact absurd found ((isStuck_iff .flowing).mp stuck _ _)
  · rfl

/-- There is at most one cut. -/
theorem IsCut.bodies_eq {bytes rest : ByteArray} {cut : List ByteArray}
    (isCut : IsCut bytes cut rest) : bodies bytes = (cut, rest) := by
  rw [isCut.sum, bodies_train_append isCut.within, bodies_of_isStuck isCut.stuck]
  simp

/-- The bodies of some bytes cut them. -/
theorem isCut_bodies (bytes : ByteArray) : IsCut bytes (bodies bytes).1 (bodies bytes).2 := by
  fun_induction bodies bytes with
  | case1 bytes body rest read more left cutEq ih =>
    obtain ⟨within, sum⟩ := readBody_eq_body_iff.mp read
    rw [cutEq] at ih
    refine ⟨?_, ?_, ih.stuck⟩
    · rw [sum, train, ByteArray.append_assoc, ← ih.sum]
    · intro other inside
      rcases List.mem_cons.mp inside with rfl | inside
      · exact within
      · exact ih.within other inside
  | case2 bytes none =>
    refine ⟨by simp [train], by simp, (isStuck_iff .flowing).mpr none⟩

/-! ## Chunks -/

/-- One body after the other is read from bytes that come in chunks, and what the reading ends
with: a failure while more chunks are to come, or what it meets behind the last of them. -/
def readChunks (arrived : ByteArray) : List ByteArray → List ByteArray × Reading
  | [] => ((bodies arrived).1, readBody (bodies arrived).2 .ended)
  | chunk :: chunks =>
    match readBody (bodies arrived).2 .flowing with
    | .failed failure => ((bodies arrived).1, .failed failure)
    | _ =>
      let (more, last) := readChunks ((bodies arrived).2 ++ chunk) chunks
      ((bodies arrived).1 ++ more, last)

def joined (chunks : List ByteArray) : ByteArray := chunks.foldr (· ++ ·) .empty

/-- A length above the limit fails whatever stands behind it. -/
theorem readBody_append_of_failed {arrived : ByteArray} {failure : Failure}
    (failed : readBody arrived .flowing = .failed failure) (more : ByteArray) (supply : Supply) :
    readBody (arrived ++ more) supply = .failed failure := by
  unfold readBody at failed
  cases found : length? arrived with
  | none => simp [found] at failed
  | some n =>
    obtain ⟨small, sum⟩ := eq_lengthBytes_append_of_length? found
    have here : length? (arrived ++ more) = some n := by
      rw [sum, ByteArray.append_assoc]
      exact length?_lengthBytes_append small _
    simp only [found] at failed
    split at failed
    · rename_i large
      simpa [readBody, here, large] using failed
    · split at failed <;> cases failed

/-- However a stream is cut into chunks, the same bodies are read and the same end is met. -/
theorem readChunks_eq (arrived : ByteArray) (chunks : List ByteArray) :
    readChunks arrived chunks = ((bodies (arrived ++ joined chunks)).1,
      readBody (bodies (arrived ++ joined chunks)).2 .ended) := by
  induction chunks generalizing arrived with
  | nil => simp [readChunks, joined]
  | cons chunk chunks ih =>
    have cut := isCut_bodies arrived
    have all : bodies (arrived ++ joined (chunk :: chunks)) =
        ((bodies arrived).1 ++ (bodies ((bodies arrived).2 ++ joined (chunk :: chunks))).1,
          (bodies ((bodies arrived).2 ++ joined (chunk :: chunks))).2) := by
      rw [← bodies_train_append cut.within, ← ByteArray.append_assoc, ← cut.sum]
    have next : (bodies arrived).2 ++ joined (chunk :: chunks) =
        (bodies arrived).2 ++ chunk ++ joined chunks := by
      rw [ByteArray.append_assoc]
      rfl
    rw [all, readChunks]
    split
    · rename_i failure failed
      have later := readBody_append_of_failed failed (joined (chunk :: chunks))
      have stuck : IsStuck ((bodies arrived).2 ++ joined (chunk :: chunks)) :=
        (isStuck_iff .ended).mpr (by simp [later])
      simp [bodies_of_isStuck stuck, later]
    · rw [next, ih]

/-- Bodies that were written one behind the other are read from any chunks of their bytes, and the
end behind them is a clean one. -/
theorem readChunks_train {written : List ByteArray}
    (within : ∀ body ∈ written, body.size ≤ frameLimit) {chunks : List ByteArray}
    (whole : joined chunks = train written) :
    readChunks .empty chunks = (written, .finished) := by
  have stuck : IsStuck .empty := (isStuck_iff .ended).mpr nofun
  have all : bodies (train written) = (written, .empty) := by
    have := bodies_train_append within .empty
    rw [bodies_of_isStuck stuck] at this
    simpa using this
  rw [readChunks_eq, whole, ByteArray.empty_append, all]
  rfl

/-- Writing and reading agree on every length of a body: both take it, or both refuse it. What four
bytes cannot tell is refused before it is written. -/
theorem framed_agrees (body more : ByteArray) (supply : Supply) :
    (body.size ≤ frameLimit →
      framed body = .ok (bundle body) ∧ readBody (bundle body ++ more) supply = .body body more) ∧
    (frameLimit < body.size →
      (∃ failure, framed body = .error failure) ∧
        (body.size < UInt32.size →
          ∃ failure, readBody (bundle body ++ more) supply = .failed failure)) := by
  refine ⟨fun within => ?_, fun large => ⟨⟨_, if_neg (by omega)⟩, fun small => ?_⟩⟩
  · exact ⟨framed_eq_ok_iff.mpr ⟨within, rfl⟩, readBody_bundle_append within more supply⟩
  · have here : length? (bundle body ++ more) = some body.size := by
      rw [bundle, ByteArray.append_assoc]
      exact length?_lengthBytes_append small _
    exact ⟨_, by simp [readBody, here, large]; rfl⟩

end PageSession.Exchange
