import Mathlib

/-!
# The Solidity ABI: head/tail layout, encoding and decoding

The contract ABI lays a value out as a sequence of 32-byte words.  A value is first turned into a
tree of tokens: single words, packed byte strings, and fixed sequences of tokens.  A sequence is
encoded as its heads followed by its tails; the head of a dynamic component is the byte offset of
its tail from the start of the sequence, and the head of a static component is its encoding.

The file has three layers.

* Words: 32-byte big-endian words and zero padding.
* Tokens: `Token.encode`, the decoder `Shape.decode` that is driven by the shape of the expected
  token only, and the round trip `decode_encode`.
* Typed descriptions: a `SolData τ` describes how values of the type `τ` are tokenized.  It carries
  the two laws that make the round trip of `abiDecode` after `abiEncode` work for every
  description, so that a description that does not read back its own tokens cannot be built.
-/

namespace BifrostRelayer

namespace SolidityAbi

/-! ### Words -/

/-- The last `k` bytes of the big-endian representation of `n`. -/
def beBytes : ℕ → ℕ → List UInt8
  | 0, _ => []
  | k + 1, n => beBytes k (n / 256) ++ [UInt8.ofNat n]

/-- The number that a big-endian byte string denotes. -/
def beNat (bs : List UInt8) : ℕ :=
  bs.foldl (fun n b => n * 256 + b.toNat) 0

@[simp] lemma length_beBytes (k n : ℕ) : (beBytes k n).length = k := by
  induction k generalizing n with
  | zero => rfl
  | succ k ih => simp [beBytes, ih]

/-- Reading a big-endian byte string back loses what does not fit into its length. -/
lemma beNat_beBytes (k n : ℕ) : beNat (beBytes k n) = n % 256 ^ k := by
  induction k generalizing n with
  | zero => simp [beBytes, beNat, Nat.mod_one]
  | succ k ih =>
    have hsnoc : beNat (beBytes k (n / 256) ++ [UInt8.ofNat n]) =
        beNat (beBytes k (n / 256)) * 256 + n % 256 := by
      simp [beNat, List.foldl_append]
    rw [beBytes, hsnoc, ih, pow_succ, Nat.mul_comm (256 ^ k) 256, Nat.mod_mul]
    ring

/-- A number below `2 ^ 256` is read back from its word. -/
lemma beNat_word {n : ℕ} (h : n < 2 ^ 256) : beNat (beBytes 32 n) = n := by
  rw [beNat_beBytes]
  exact Nat.mod_eq_of_lt (by simpa using h)

/-- Zero padding on the right up to a multiple of 32 bytes. -/
def padRight (bs : List UInt8) : List UInt8 :=
  bs ++ List.replicate ((32 - bs.length % 32) % 32) 0

/-- Padding adds less than a word. -/
lemma length_padRight_le (bs : List UInt8) : (padRight bs).length ≤ bs.length + 31 := by
  simp only [padRight, List.length_append, List.length_replicate]
  omega

/-! ### Tokens and their encoding -/

/-- The tokens of the ABI: a word, a packed byte string, a fixed sequence of tokens. -/
inductive Token where
  | word (w : List UInt8)
  | packed (bs : List UInt8)
  | seq (ts : List Token)

/-- The part of a token that its type determines. -/
inductive Shape where
  | word
  | packed
  | seq (ss : List Shape)

mutual

/-- A token is dynamic if its encoding has no fixed length. -/
def Shape.isDynamic : Shape → Bool
  | .word => false
  | .packed => true
  | .seq ss => Shape.anyDynamic ss

/-- Some token of a sequence is dynamic. -/
def Shape.anyDynamic : List Shape → Bool
  | [] => false
  | s :: ss => s.isDynamic || Shape.anyDynamic ss

end

mutual

/-- The number of bytes a token takes in the heads of the sequence around it. -/
def Shape.headSize : Shape → ℕ
  | .word => 32
  | .packed => 32
  | .seq ss => if Shape.anyDynamic ss then 32 else Shape.headSizes ss

/-- The number of bytes all heads of a sequence take. -/
def Shape.headSizes : List Shape → ℕ
  | [] => 0
  | s :: ss => s.headSize + Shape.headSizes ss

end

mutual

/-- The shape of a token. -/
def Token.shape : Token → Shape
  | .word _ => .word
  | .packed _ => .packed
  | .seq ts => .seq (Token.shapes ts)

/-- The shapes of a sequence of tokens. -/
def Token.shapes : List Token → List Shape
  | [] => []
  | t :: ts => t.shape :: Token.shapes ts

end

mutual

/-- A token is well formed if every word in it has 32 bytes. -/
def Token.WellFormed : Token → Prop
  | .word w => w.length = 32
  | .packed _ => True
  | .seq ts => Token.AllWellFormed ts

/-- All tokens of a sequence are well formed. -/
def Token.AllWellFormed : List Token → Prop
  | [] => True
  | t :: ts => t.WellFormed ∧ Token.AllWellFormed ts

end

mutual

/-- The encoding of a token. -/
def Token.encode : Token → List UInt8
  | .word w => w
  | .packed bs => beBytes 32 bs.length ++ padRight bs
  | .seq ts => Token.heads (Shape.headSizes (Token.shapes ts)) ts ++ Token.tails ts

/-- The heads of a sequence, where `off` is the offset of the next tail. -/
def Token.heads (off : ℕ) : List Token → List UInt8
  | [] => []
  | t :: ts =>
      if t.shape.isDynamic then beBytes 32 off ++ Token.heads (off + t.encode.length) ts
      else t.encode ++ Token.heads off ts

/-- The tails of a sequence. -/
def Token.tails : List Token → List UInt8
  | [] => []
  | t :: ts => (if t.shape.isDynamic then t.encode else []) ++ Token.tails ts

end

/-- The encoding of a sequence of tokens: heads, then tails. -/
def encodeSeq (ts : List Token) : List UInt8 :=
  Token.heads (Shape.headSizes (Token.shapes ts)) ts ++ Token.tails ts

/-! ### Decoding -/

/-- The word at the start of a buffer. -/
def readWord (buf : List UInt8) : Option (List UInt8) :=
  if 32 ≤ buf.length then some (buf.take 32) else none

/-- The bytes that start at the offset `off` of a buffer. -/
def seek (buf : List UInt8) (off : ℕ) : Option (List UInt8) :=
  if off ≤ buf.length then some (buf.drop off) else none

/-- The length-prefixed byte string at the start of a buffer. -/
def readPacked (buf : List UInt8) : Option (List UInt8) := do
  let w ← readWord buf
  let n := beNat w
  if n ≤ (buf.drop 32).length then some ((buf.drop 32).take n) else none

mutual

/-- Decode a token of the given shape at the start of a buffer. -/
def Shape.decode : Shape → List UInt8 → Option Token
  | .word, buf => (readWord buf).map .word
  | .packed, buf => (readPacked buf).map .packed
  | .seq ss, buf => (Shape.decodeSeq ss buf 0).map .seq

/-- Decode the tokens of a sequence whose heads start at the offset `pos` of the buffer; tails are
found at their offsets from the start of the buffer. -/
def Shape.decodeSeq : List Shape → List UInt8 → ℕ → Option (List Token)
  | [], _, _ => some []
  | s :: ss, buf, pos => do
      let here ← seek buf pos
      let at? ← if s.isDynamic then (readWord here).bind fun w => seek buf (beNat w) else some here
      let t ← s.decode at?
      let ts ← Shape.decodeSeq ss buf (pos + s.headSize)
      return t :: ts

end

/-! ### Lengths -/

/-- A dynamic token takes one word in the heads. -/
lemma headSize_of_isDynamic {s : Shape} (h : s.isDynamic = true) : s.headSize = 32 := by
  cases s with
  | word => rfl
  | packed => rfl
  | seq ss =>
    rw [Shape.isDynamic] at h
    rw [Shape.headSize, if_pos h]

mutual

/-- A static token takes exactly its encoding in the heads. -/
lemma length_encode_of_static : ∀ (t : Token), t.WellFormed → t.shape.isDynamic = false →
    t.encode.length = t.shape.headSize
  | .word w, hwf, _ => by
    simpa [Token.encode, Token.shape, Shape.headSize, Token.WellFormed] using hwf
  | .packed bs, _, hst => by
    simp [Token.shape, Shape.isDynamic] at hst
  | .seq ts, hwf, hst => by
    rw [Token.shape, Shape.isDynamic] at hst
    rw [Token.WellFormed] at hwf
    obtain ⟨hheads, htails⟩ := length_heads_of_static ts hwf hst
    simp [Token.encode, Token.shape, Shape.headSize, hst, hheads, htails]

/-- A sequence of static tokens has no tails. -/
lemma length_heads_of_static : ∀ (ts : List Token), Token.AllWellFormed ts →
    Shape.anyDynamic (Token.shapes ts) = false →
    (∀ off, (Token.heads off ts).length = Shape.headSizes (Token.shapes ts)) ∧ Token.tails ts = []
  | [], _, _ => by simp [Token.heads, Token.tails, Token.shapes, Shape.headSizes]
  | t :: ts, hwf, hst => by
    rw [Token.shapes, Shape.anyDynamic, Bool.or_eq_false_iff] at hst
    rw [Token.AllWellFormed] at hwf
    obtain ⟨hheads, htails⟩ := length_heads_of_static ts hwf.2 hst.2
    have ht : t.encode.length = t.shape.headSize := length_encode_of_static t hwf.1 hst.1
    simp [Token.heads, Token.tails, Token.shapes, Shape.headSizes, hst.1, hheads, htails, ht]

end

/-- The heads of a sequence have the length that the shapes announce. -/
lemma length_heads (ts : List Token) (hwf : Token.AllWellFormed ts) (off : ℕ) :
    (Token.heads off ts).length = Shape.headSizes (Token.shapes ts) := by
  induction ts generalizing off with
  | nil => simp [Token.heads, Token.shapes, Shape.headSizes]
  | cons t ts ih =>
    rw [Token.AllWellFormed] at hwf
    cases hdyn : t.shape.isDynamic with
    | true =>
      simp [Token.heads, Token.shapes, Shape.headSizes, hdyn, ih hwf.2, headSize_of_isDynamic hdyn]
    | false =>
      simp [Token.heads, Token.shapes, Shape.headSizes, hdyn, ih hwf.2,
        length_encode_of_static t hwf.1 hdyn]

/-- The encoding of a fixed sequence consists of its heads and its tails. -/
lemma length_encode_seq (ts : List Token) (hwf : Token.WellFormed (.seq ts)) :
    (Token.encode (.seq ts)).length =
      Shape.headSizes (Token.shapes ts) + (Token.tails ts).length := by
  rw [Token.WellFormed] at hwf
  rw [Token.encode, List.length_append, length_heads ts hwf]

/-! ### The round trip -/

/-- A word at the front of a buffer is read. -/
lemma readWord_append {w : List UInt8} (hw : w.length = 32) (rest : List UInt8) :
    readWord (w ++ rest) = some w := by
  have hlen : 32 ≤ (w ++ rest).length := by simp [hw]
  rw [readWord, if_pos hlen, List.take_left' hw]

/-- Seeking past a prefix of a buffer lands on what follows it. -/
lemma seek_append {pre : List UInt8} {off : ℕ} (h : pre.length = off) (rest : List UInt8) :
    seek (pre ++ rest) off = some rest := by
  have hlen : off ≤ (pre ++ rest).length := by simp [← h]
  rw [seek, if_pos hlen, List.drop_left' h]

/-- A packed byte string is read back from the front of a buffer. -/
lemma readPacked_append {bs : List UInt8} (hbs : bs.length < 2 ^ 256) (rest : List UInt8) :
    readPacked (beBytes 32 bs.length ++ padRight bs ++ rest) = some bs := by
  have hdrop : (beBytes 32 bs.length ++ padRight bs ++ rest).drop 32 = padRight bs ++ rest := by
    rw [List.append_assoc, List.drop_left' (length_beBytes 32 _)]
  have hle : bs.length ≤ (padRight bs ++ rest).length := by simp [padRight]
  have htake : (padRight bs ++ rest).take bs.length = bs := by
    rw [padRight, List.append_assoc, List.take_left]
  rw [readPacked, List.append_assoc, readWord_append (length_beBytes 32 _), ← List.append_assoc,
    hdrop]
  simp only [Option.bind_eq_bind, Option.bind_some, beNat_word hbs, if_pos hle, htake]

/-- A word token is read back. -/
lemma decode_encode_word (w : List UInt8) (hwf : w.length = 32) (rest : List UInt8) :
    (Token.word w).shape.decode ((Token.word w).encode ++ rest) = some (Token.word w) := by
  rw [Token.shape, Token.encode, Shape.decode, readWord_append hwf, Option.map_some]

/-- A packed token is read back. -/
lemma decode_encode_packed (bs : List UInt8) (hlen : (Token.packed bs).encode.length < 2 ^ 256)
    (rest : List UInt8) :
    (Token.packed bs).shape.decode ((Token.packed bs).encode ++ rest) = some (Token.packed bs) := by
  have hbs : bs.length < 2 ^ 256 := by
    simp only [Token.encode, padRight, List.length_append] at hlen
    omega
  rw [Token.shape, Token.encode, Shape.decode, readPacked_append hbs, Option.map_some]

/-- The condition under which the heads of a sequence that follow `pre` point at the tails that
follow `mid`, and no offset overflows a word. -/
def OffsetsFit (ts : List Token) (off : ℕ) (pre mid : List UInt8) : Prop :=
  off = pre.length + (Token.heads off ts).length + mid.length ∧
    off + (Token.tails ts).length < 2 ^ 256

/-- The tail of a dynamic first component fits. -/
lemma length_encode_lt_of_fit {t : Token} {ts : List Token} {off : ℕ} {pre mid : List UInt8}
    (hfit : OffsetsFit (t :: ts) off pre mid) : t.encode.length < 2 ^ 256 := by
  obtain ⟨hoff, hlt⟩ := hfit
  cases hdyn : t.shape.isDynamic with
  | true =>
    simp only [Token.tails, hdyn, if_true, List.length_append] at hlt
    omega
  | false =>
    simp only [Token.heads, hdyn, Bool.false_eq_true, if_false, List.length_append] at hoff
    omega

/-- A dynamic first component: its head is read, its tail is found at that offset, and the heads
that remain point behind that tail. -/
lemma decodeSeq_cons_dynamic {t : Token} {ts : List Token} {off : ℕ} {pre mid rest : List UInt8}
    (hdyn : t.shape.isDynamic = true) (hfit : OffsetsFit (t :: ts) off pre mid)
    (ht : ∀ rest, t.shape.decode (t.encode ++ rest) = some t)
    (hts : ∀ (off : ℕ) (pre mid rest : List UInt8), OffsetsFit ts off pre mid →
      Shape.decodeSeq (Token.shapes ts)
        (pre ++ Token.heads off ts ++ mid ++ Token.tails ts ++ rest) pre.length = some ts) :
    Shape.decodeSeq (Token.shapes (t :: ts))
      (pre ++ Token.heads off (t :: ts) ++ mid ++ Token.tails (t :: ts) ++ rest) pre.length =
        some (t :: ts) := by
  obtain ⟨hoff, hlt⟩ := hfit
  simp only [Token.heads, Token.tails, hdyn, if_true, List.length_append, length_beBytes]
    at hoff hlt
  have hword : off < 2 ^ 256 := by omega
  have hnext : OffsetsFit ts (off + t.encode.length) (pre ++ beBytes 32 off) (mid ++ t.encode) := by
    constructor
    · simp only [List.length_append, length_beBytes]
      omega
    · omega
  have hrun := hts _ _ _ rest hnext
  have hbuf : pre ++ Token.heads off (t :: ts) ++ mid ++ Token.tails (t :: ts) ++ rest =
      pre ++ beBytes 32 off ++ Token.heads (off + t.encode.length) ts ++ (mid ++ t.encode) ++
        Token.tails ts ++ rest := by
    simp [Token.heads, Token.tails, hdyn]
  have hpos : (pre ++ beBytes 32 off).length = pre.length + t.shape.headSize := by
    rw [headSize_of_isDynamic hdyn, List.length_append, length_beBytes]
  rw [hpos] at hrun
  rw [hbuf, Token.shapes, Shape.decodeSeq]
  -- The head is found behind `pre`, the tail behind all heads and `mid`.
  have hhere : seek (pre ++ beBytes 32 off ++ Token.heads (off + t.encode.length) ts ++
      (mid ++ t.encode) ++ Token.tails ts ++ rest) pre.length =
        some (beBytes 32 off ++ (Token.heads (off + t.encode.length) ts ++ (mid ++ t.encode) ++
          Token.tails ts ++ rest)) := by
    simpa only [List.append_assoc] using @seek_append pre _ rfl
      (beBytes 32 off ++ (Token.heads (off + t.encode.length) ts ++ (mid ++ t.encode) ++
        Token.tails ts ++ rest))
  have htail : seek (pre ++ beBytes 32 off ++ Token.heads (off + t.encode.length) ts ++
      (mid ++ t.encode) ++ Token.tails ts ++ rest) off =
        some (t.encode ++ (Token.tails ts ++ rest)) := by
    have hlen : (pre ++ beBytes 32 off ++ Token.heads (off + t.encode.length) ts ++ mid).length =
        off := by
      simp only [List.length_append, length_beBytes]
      omega
    simpa only [List.append_assoc] using seek_append hlen (t.encode ++ (Token.tails ts ++ rest))
  simp only [hhere, hdyn, if_true, readWord_append (length_beBytes 32 off), beNat_word hword,
    htail, ht, hrun, Option.bind_eq_bind, Option.bind_some, Option.pure_def]

/-- A static first component is decoded in place. -/
lemma decodeSeq_cons_static {t : Token} {ts : List Token} {off : ℕ} {pre mid rest : List UInt8}
    (hdyn : t.shape.isDynamic = false) (hfit : OffsetsFit (t :: ts) off pre mid)
    (hsize : t.encode.length = t.shape.headSize)
    (ht : ∀ rest, t.shape.decode (t.encode ++ rest) = some t)
    (hts : ∀ (off : ℕ) (pre mid rest : List UInt8), OffsetsFit ts off pre mid →
      Shape.decodeSeq (Token.shapes ts)
        (pre ++ Token.heads off ts ++ mid ++ Token.tails ts ++ rest) pre.length = some ts) :
    Shape.decodeSeq (Token.shapes (t :: ts))
      (pre ++ Token.heads off (t :: ts) ++ mid ++ Token.tails (t :: ts) ++ rest) pre.length =
        some (t :: ts) := by
  obtain ⟨hoff, hlt⟩ := hfit
  simp only [Token.heads, Token.tails, hdyn, Bool.false_eq_true, if_false, List.length_append,
    List.nil_append] at hoff hlt
  have hnext : OffsetsFit ts off (pre ++ t.encode) mid := by
    constructor
    · simp only [List.length_append]
      omega
    · exact hlt
  have hrun := hts _ _ _ rest hnext
  have hbuf : pre ++ Token.heads off (t :: ts) ++ mid ++ Token.tails (t :: ts) ++ rest =
      pre ++ t.encode ++ Token.heads off ts ++ mid ++ Token.tails ts ++ rest := by
    simp [Token.heads, Token.tails, hdyn]
  have hpos : (pre ++ t.encode).length = pre.length + t.shape.headSize := by
    rw [List.length_append, hsize]
  rw [hpos] at hrun
  rw [hbuf, Token.shapes, Shape.decodeSeq]
  have hhere : seek (pre ++ t.encode ++ Token.heads off ts ++ mid ++ Token.tails ts ++ rest)
      pre.length = some (t.encode ++ (Token.heads off ts ++ mid ++ Token.tails ts ++ rest)) := by
    simpa only [List.append_assoc] using @seek_append pre _ rfl
      (t.encode ++ (Token.heads off ts ++ mid ++ Token.tails ts ++ rest))
  simp only [hhere, hdyn, Bool.false_eq_true, if_false, ht, hrun, Option.bind_eq_bind,
    Option.bind_some, Option.pure_def]

mutual

/-- A well-formed token is read back from the front of a buffer that starts with its encoding. -/
theorem decode_encode : ∀ (t : Token), t.WellFormed → t.encode.length < 2 ^ 256 →
    ∀ rest, t.shape.decode (t.encode ++ rest) = some t
  | .word w => fun hwf _ rest => decode_encode_word w hwf rest
  | .packed bs => fun _ hlen rest => decode_encode_packed bs hlen rest
  | .seq ts => by
    intro hwf hlen rest
    rw [Token.WellFormed] at hwf
    have hheads := length_heads ts hwf (Shape.headSizes (Token.shapes ts))
    have hfit : OffsetsFit ts (Shape.headSizes (Token.shapes ts)) [] [] := by
      refine ⟨by simp [hheads], ?_⟩
      rw [Token.encode, List.length_append, hheads] at hlen
      exact hlen
    have hrun := decodeSeq_heads ts hwf (Shape.headSizes (Token.shapes ts)) [] [] rest hfit
    rw [Token.shape, Token.encode, Shape.decode]
    simpa using congrArg (Option.map Token.seq) hrun

/-- Decoding a sequence after part of its heads, `pre`, and of its tails, `mid`, was passed. -/
theorem decodeSeq_heads : ∀ (ts : List Token), Token.AllWellFormed ts →
    ∀ (off : ℕ) (pre mid rest : List UInt8), OffsetsFit ts off pre mid →
      Shape.decodeSeq (Token.shapes ts)
        (pre ++ Token.heads off ts ++ mid ++ Token.tails ts ++ rest) pre.length = some ts
  | [] => fun _ _ _ _ _ _ => by simp [Token.shapes, Shape.decodeSeq]
  | t :: ts => by
    intro hwf off pre mid rest hfit
    rw [Token.AllWellFormed] at hwf
    cases hdyn : t.shape.isDynamic with
    | true =>
      exact decodeSeq_cons_dynamic hdyn hfit (decode_encode t hwf.1 (length_encode_lt_of_fit hfit))
        (decodeSeq_heads ts hwf.2)
    | false =>
      exact decodeSeq_cons_static hdyn hfit (length_encode_of_static t hwf.1 hdyn)
        (decode_encode t hwf.1 (length_encode_lt_of_fit hfit)) (decodeSeq_heads ts hwf.2)

end

/-- A sequence of well-formed tokens is read back from its encoding. -/
theorem decodeSeq_encodeSeq (ts : List Token) (hwf : Token.AllWellFormed ts)
    (hlen : (encodeSeq ts).length < 2 ^ 256) :
    Shape.decodeSeq (Token.shapes ts) (encodeSeq ts) 0 = some ts := by
  have hheads := length_heads ts hwf (Shape.headSizes (Token.shapes ts))
  have hfit : OffsetsFit ts (Shape.headSizes (Token.shapes ts)) [] [] := by
    refine ⟨by simp [hheads], ?_⟩
    rw [encodeSeq, List.length_append, hheads] at hlen
    exact hlen
  simpa [encodeSeq] using decodeSeq_heads ts hwf _ [] [] [] hfit

/-! ### Fixed and variable byte strings -/

/-- A byte string of exactly `n` bytes. -/
abbrev FixedBytes (n : ℕ) : Type := { bs : List UInt8 // bs.length = n }

/-- The value all of whose bytes are `x`. -/
def FixedBytes.repeatByte (n : ℕ) (x : UInt8) : FixedBytes n :=
  ⟨List.replicate n x, List.length_replicate⟩

/-- A 20-byte account address. -/
structure Address where
  bytes : FixedBytes 20
deriving DecidableEq

/-- A byte string in memory: no allocation is longer than `isize::MAX` bytes. -/
abbrev Bytes : Type := { bs : List UInt8 // bs.length < 2 ^ 63 }

/-- The word that starts with the bytes of `bs` and is zero behind them. -/
def rightPadding (bs : List UInt8) : List UInt8 :=
  bs ++ List.replicate (32 - bs.length) 0

lemma length_rightPadding {bs : List UInt8} (h : bs.length ≤ 32) :
    (rightPadding bs).length = 32 := by
  simp [rightPadding, h]

/-- A padded byte string of at most 32 bytes is a word. -/
lemma length_rightPadding_val {n : ℕ} (bs : FixedBytes n) (hn : n ≤ 32) :
    (rightPadding bs.val).length = 32 :=
  length_rightPadding (bs.property.le.trans hn)

/-- The word that ends with the address `a`. -/
def addressWord (a : Address) : List UInt8 :=
  List.replicate 12 0 ++ a.bytes.val

lemma length_addressWord (a : Address) : (addressWord a).length = 32 := by
  simp [addressWord, a.bytes.property]

/-! ### Typed descriptions -/

/-- How the values of `τ` are turned into tokens of one shape and read back. -/
structure SolData (τ : Type) where
  /-- The shape of all tokens of the type. -/
  shape : Shape
  /-- The token of a value. -/
  tokenize : τ → Token
  /-- The value of a token; bits outside the type are not looked at. -/
  detokenize : Token → Option τ
  shape_tokenize : ∀ v, (tokenize v).shape = shape
  wellFormed_tokenize : ∀ v, (tokenize v).WellFormed
  detokenize_tokenize : ∀ v, detokenize (tokenize v) = some v

/-- How the values of `τ` are turned into a sequence of tokens and read back. -/
structure SolSeq (τ : Type) where
  /-- The shapes of the components. -/
  shapes : List Shape
  /-- The tokens of the components. -/
  tokenize : τ → List Token
  /-- The value of a sequence of tokens. -/
  detokenize : List Token → Option τ
  shapes_tokenize : ∀ v, Token.shapes (tokenize v) = shapes
  wellFormed_tokenize : ∀ v, Token.AllWellFormed (tokenize v)
  detokenize_tokenize : ∀ v, detokenize (tokenize v) = some v

namespace SolData

variable {σ τ : Type}

/-- `uint<n>`: a word that holds the number; reading takes the low `n` bits. -/
def uint (n : ℕ) (hn : n ≤ 256) : SolData (BitVec n) where
  shape := .word
  tokenize v := .word (beBytes 32 v.toNat)
  detokenize
    | .word w => some (BitVec.ofNat n (beNat w))
    | _ => none
  shape_tokenize _ := by rw [Token.shape]
  wellFormed_tokenize _ := by rw [Token.WellFormed]; exact length_beBytes 32 _
  detokenize_tokenize v := by
    have hv : v.toNat < 2 ^ 256 :=
      v.isLt.trans_le (Nat.pow_le_pow_right (by omega) hn)
    simp [beNat_word hv]

/-- `uint256`: a full word. -/
def uint256 : SolData (BitVec 256) := .uint 256 le_rfl

/-- `bytes<n>`: the bytes, padded with zeros on the right; reading takes the first `n` bytes. -/
def fixedBytes (n : ℕ) (hn : n ≤ 32) : SolData (FixedBytes n) where
  shape := .word
  tokenize v := .word (rightPadding v.val)
  detokenize
    | .word w => if h : (w.take n).length = n then some ⟨w.take n, h⟩ else none
    | _ => none
  shape_tokenize _ := by rw [Token.shape]
  wellFormed_tokenize v := by
    rw [Token.WellFormed]
    exact length_rightPadding_val v hn
  detokenize_tokenize v := by
    have htake : (rightPadding v.val).take n = v.val := List.take_left' v.property
    simp [htake, v.property]

/-- `address`: a word that ends with the 20 bytes of the address. -/
def address : SolData Address where
  shape := .word
  tokenize v := .word (addressWord v)
  detokenize
    | .word w => if h : (w.drop 12).length = 20 then some ⟨⟨w.drop 12, h⟩⟩ else none
    | _ => none
  shape_tokenize _ := by rw [Token.shape]
  wellFormed_tokenize v := by rw [Token.WellFormed]; exact length_addressWord v
  detokenize_tokenize v := by
    have hdrop : (addressWord v).drop 12 = v.bytes.val := List.drop_left' (by simp)
    simp [hdrop, v.bytes.property]

/-- `bytes`: a byte string of any length. -/
def bytes : SolData Bytes where
  shape := .packed
  tokenize v := .packed v.val
  detokenize
    | .packed bs => if h : bs.length < 2 ^ 63 then some ⟨bs, h⟩ else none
    | _ => none
  shape_tokenize _ := by rw [Token.shape]
  wellFormed_tokenize _ := by rw [Token.WellFormed]; trivial
  detokenize_tokenize v := dif_pos v.property

/-- A tuple of components. -/
def tuple (d : SolSeq τ) : SolData τ where
  shape := .seq d.shapes
  tokenize v := .seq (d.tokenize v)
  detokenize
    | .seq ts => d.detokenize ts
    | _ => none
  shape_tokenize v := by rw [Token.shape, d.shapes_tokenize]
  wellFormed_tokenize v := by rw [Token.WellFormed]; exact d.wellFormed_tokenize v
  detokenize_tokenize v := d.detokenize_tokenize v

/-- The description of a type whose values correspond to those of a described type. -/
def map (e : σ ≃ τ) (d : SolData τ) : SolData σ where
  shape := d.shape
  tokenize v := d.tokenize (e v)
  detokenize t := (d.detokenize t).map e.symm
  shape_tokenize v := d.shape_tokenize (e v)
  wellFormed_tokenize v := d.wellFormed_tokenize (e v)
  detokenize_tokenize v := by simp [d.detokenize_tokenize]

end SolData

namespace SolSeq

variable {σ τ : Type}

/-- The empty sequence. -/
def nil : SolSeq Unit where
  shapes := []
  tokenize _ := []
  detokenize
    | [] => some ()
    | _ => none
  shapes_tokenize _ := by rw [Token.shapes]
  wellFormed_tokenize _ := by rw [Token.AllWellFormed]; trivial
  detokenize_tokenize _ := rfl

/-- One component in front of a sequence. -/
def cons (d : SolData σ) (ds : SolSeq τ) : SolSeq (σ × τ) where
  shapes := d.shape :: ds.shapes
  tokenize v := d.tokenize v.1 :: ds.tokenize v.2
  detokenize
    | t :: ts => (d.detokenize t).bind fun v => (ds.detokenize ts).map fun vs => (v, vs)
    | [] => none
  shapes_tokenize v := by rw [Token.shapes, d.shape_tokenize, ds.shapes_tokenize]
  wellFormed_tokenize v := by
    rw [Token.AllWellFormed]
    exact ⟨d.wellFormed_tokenize v.1, ds.wellFormed_tokenize v.2⟩
  detokenize_tokenize v := by simp [d.detokenize_tokenize, ds.detokenize_tokenize]

/-- The sequence with a single component. -/
def single (d : SolData τ) : SolSeq τ where
  shapes := [d.shape]
  tokenize v := [d.tokenize v]
  detokenize
    | [t] => d.detokenize t
    | _ => none
  shapes_tokenize v := by rw [Token.shapes, Token.shapes, d.shape_tokenize]
  wellFormed_tokenize v := by
    rw [Token.AllWellFormed, Token.AllWellFormed]
    exact ⟨d.wellFormed_tokenize v, trivial⟩
  detokenize_tokenize v := d.detokenize_tokenize v

end SolSeq

variable {τ : Type}

/-- Encode the components of a sequence as the arguments of a call. -/
def abiEncodeSequence (d : SolSeq τ) (v : τ) : List UInt8 :=
  encodeSeq (d.tokenize v)

/-- Decode the components of a sequence. -/
def abiDecodeSequence (d : SolSeq τ) (buf : List UInt8) : Option τ :=
  (Shape.decodeSeq d.shapes buf 0).bind d.detokenize

/-- Encode a value on its own: as a sequence with one component. -/
def abiEncode (d : SolData τ) (v : τ) : List UInt8 :=
  abiEncodeSequence (SolSeq.single d) v

/-- Decode a value on its own. -/
def abiDecode (d : SolData τ) (buf : List UInt8) : Option τ :=
  abiDecodeSequence (SolSeq.single d) buf

/-- Every described sequence is decoded from its encoding, if the encoding is short enough for
offsets to fit a word. -/
theorem abiDecodeSequence_abiEncodeSequence (d : SolSeq τ) (v : τ)
    (hlen : (abiEncodeSequence d v).length < 2 ^ 256) :
    abiDecodeSequence d (abiEncodeSequence d v) = some v := by
  have hdec := decodeSeq_encodeSeq (d.tokenize v) (d.wellFormed_tokenize v) hlen
  rw [d.shapes_tokenize] at hdec
  rw [abiDecodeSequence, abiEncodeSequence, hdec, Option.bind_some, d.detokenize_tokenize]

/-- Every described value is decoded from its encoding. -/
theorem abiDecode_abiEncode (d : SolData τ) (v : τ) (hlen : (abiEncode d v).length < 2 ^ 256) :
    abiDecode d (abiEncode d v) = some v :=
  abiDecodeSequence_abiEncodeSequence (SolSeq.single d) v hlen

/-- A dynamic tuple on its own is the sequence of its components behind an offset of one word. -/
theorem abiEncode_tuple (d : SolSeq τ) (hdyn : Shape.anyDynamic d.shapes = true) (v : τ) :
    abiEncode (.tuple d) v = beBytes 32 32 ++ abiEncodeSequence d v := by
  have htuple : (Token.seq (d.tokenize v)).shape = .seq d.shapes := by
    rw [Token.shape, d.shapes_tokenize]
  have hdyn' : (Shape.seq d.shapes).isDynamic = true := by
    rw [Shape.isDynamic, hdyn]
  simp only [abiEncode, abiEncodeSequence, SolSeq.single, SolData.tuple, encodeSeq, Token.shapes,
    Shape.headSizes, Token.heads, Token.tails, htuple, hdyn', headSize_of_isDynamic hdyn', if_true,
    Token.encode, List.append_nil]

/-! ### Dynamically typed values -/

/-- A value together with its ABI type, built at run time. -/
inductive DynSolValue where
  /-- `bytes<size>`, given by the padded word. -/
  | fixedBytes (word : FixedBytes 32) (size : ℕ)
  /-- `uint<bits>`. -/
  | uint (value : BitVec 256) (bits : ℕ)
  | address (a : Address)
  | bytes (bs : List UInt8)
  | tuple (vs : List DynSolValue)

mutual

/-- The token of a dynamically typed value; the sizes are not part of the encoding. -/
def DynSolValue.tokenize : DynSolValue → Token
  | .fixedBytes word _ => .word word.val
  | .uint value _ => .word (beBytes 32 value.toNat)
  | .address a => .word (addressWord a)
  | .bytes bs => .packed bs
  | .tuple vs => .seq (DynSolValue.tokenizeAll vs)

/-- The tokens of a list of dynamically typed values. -/
def DynSolValue.tokenizeAll : List DynSolValue → List Token
  | [] => []
  | v :: vs => v.tokenize :: DynSolValue.tokenizeAll vs

end

/-- Encode a dynamically typed value as a sequence with one component. -/
def DynSolValue.abiEncode (v : DynSolValue) : List UInt8 :=
  encodeSeq [v.tokenize]

/-! ### Parameters with arrays -/

/-- A parameter of a call: a word, or an array of words, which is dynamic. -/
inductive Param where
  | word (w : List UInt8)
  | array (ws : List (List UInt8))

/-- The tail of a parameter; an array is its length and its words. -/
def Param.tail : Param → List UInt8
  | .word _ => []
  | .array ws => beBytes 32 ws.length ++ ws.flatten

/-- The heads of parameters, where `off` is the offset of the next tail. -/
def Param.heads (off : ℕ) : List Param → List UInt8
  | [] => []
  | .word w :: ps => w ++ Param.heads off ps
  | .array ws :: ps => beBytes 32 off ++ Param.heads (off + (Param.array ws).tail.length) ps

/-- Encode parameters: their heads, one word each, and their tails. -/
def abiEncodeParams (ps : List Param) : List UInt8 :=
  Param.heads (32 * ps.length) ps ++ ps.flatMap Param.tail

/-- Words are determined by their concatenation. -/
lemma words_inj {ws ws' : List (List UInt8)} (hws : ∀ w ∈ ws, w.length = 32)
    (hws' : ∀ w ∈ ws', w.length = 32) (h : ws.flatten = ws'.flatten) : ws = ws' := by
  induction ws generalizing ws' with
  | nil =>
    cases ws' with
    | nil => rfl
    | cons w' ws' =>
      have hlength := congrArg List.length h
      rw [List.flatten_cons, List.length_append, hws' w' List.mem_cons_self, List.flatten_nil,
        List.length_nil] at hlength
      omega
  | cons w ws ih =>
    obtain ⟨hw, hws⟩ := List.forall_mem_cons.mp hws
    cases ws' with
    | nil =>
      have hlength := congrArg List.length h
      rw [List.flatten_cons, List.length_append, hw, List.flatten_nil, List.length_nil] at hlength
      omega
    | cons w' ws' =>
      obtain ⟨hw', hrest'⟩ := List.forall_mem_cons.mp hws'
      rw [List.flatten_cons, List.flatten_cons] at h
      obtain ⟨rfl, hrest⟩ := List.append_inj h (hw.trans hw'.symm)
      rw [ih hws hrest' hrest]

end SolidityAbi

end BifrostRelayer
