import BundleGraph.Proofs.Syntax.Pieces

/-! # What parsers read

    A parser that succeeds has read the source from one place to a later one, and
    the pieces of its result stand in a row there. `Reads p Q` says so of all
    results of a parser `p`, and that they have the property `Q`.

    Rules of the grammar are parsers one after the other, whose pieces are put
    together at the end. `ReadsOn acc p Q` is said of what is left of such a rule:
    if the pieces `acc` stand in a row up to the place where `p` begins, then the
    result of `p` holds all of `acc` and what `p` has read itself. So a rule is
    followed in the order in which it is written down: each parser adds its pieces
    (`ReadsOn.seq`), and at the end none is left out (`ReadsOn.pure`).
-/

namespace BundleGraph.Syntax

/-! ### The pieces of a result -/

/-- What parsers have for results: each is made of pieces. -/
class HasPieces (α : Type) where
  /-- The pieces of a result, in the order of the source. -/
  pieces : α → List Piece

export HasPieces (pieces)

section instances

variable {α : Type} [HasPieces α]

instance : HasPieces Piece := ⟨fun p => [p]⟩

instance : HasPieces (List α) := ⟨fun xs => xs.flatMap pieces⟩

instance : HasPieces (Option α) := ⟨fun x => x.elim [] pieces⟩

instance : HasPieces Unit := ⟨fun _ => []⟩

instance : HasPieces Bool := ⟨fun _ => []⟩

instance : HasPieces Nat := ⟨fun _ => []⟩

instance : HasPieces Source := ⟨fun _ => []⟩

@[simp] theorem pieces_piece (p : Piece) : pieces p = [p] := rfl

@[simp] theorem pieces_list (ps : List Piece) : pieces ps = ps := List.flatMap_singleton' ps

@[simp] theorem pieces_flatten (xs : List (List α)) : pieces xs.flatten = pieces xs := by
  show xs.flatten.flatMap pieces = xs.flatMap fun x => x.flatMap pieces
  rw [← List.flatMap_assoc, List.flatMap_id']

@[simp] theorem pieces_none : pieces (none : Option α) = [] := rfl

@[simp] theorem pieces_some (a : α) : pieces (some a) = pieces a := rfl

@[simp] theorem pieces_unit (u : Unit) : pieces u = [] := rfl

@[simp] theorem pieces_bool (b : Bool) : pieces b = [] := rfl

@[simp] theorem pieces_source (s : Source) : pieces s = [] := rfl

@[simp] theorem pieces_nat? (n : Option Nat) : pieces n = [] := by cases n <;> rfl

end instances

/-! ### Parsers that succeed -/

section success

variable {α β : Type} {p q : Parser α} {s : Source} {i j : Nat}

/-- A parser after another one reads on from where that one has stopped. -/
theorem bind_parser_eq_some {q : α → Parser β} {b : β} (h : (p >>= q) s i = some (b, j)) :
    ∃ a k, p s i = some (a, k) ∧ q a s k = some (b, j) := by
  have hbind : (p >>= q) s i = (p s i).bind fun r => q r.1 s r.2 := rfl
  rw [hbind] at h
  obtain ⟨⟨a, k⟩, hp, hq⟩ := Option.bind_eq_some_iff.1 h
  exact ⟨a, k, hp, hq⟩

theorem map_parser_eq_some {f : α → β} {b : β} (h : (f <$> p) s i = some (b, j)) :
    ∃ a, p s i = some (a, j) ∧ f a = b := by
  have hmap : (f <$> p) s i = (p s i).map fun r => (f r.1, r.2) := by
    show (p s i).bind _ = _
    cases p s i <;> rfl
  rw [hmap] at h
  obtain ⟨⟨a, k⟩, hp, hf⟩ := Option.map_eq_some_iff.1 h
  obtain ⟨rfl, rfl⟩ := Prod.mk.inj hf
  exact ⟨a, hp, rfl⟩

theorem pure_parser_eq_some {a b : α} (h : (pure a : Parser α) s i = some (b, j)) :
    a = b ∧ i = j := Prod.mk.inj (Option.some.inj h)

theorem orElse_parser_eq_some {r : α × Nat} (h : (p <|> q) s i = some r) :
    p s i = some r ∨ q s i = some r := by
  have horElse : (p <|> q) s i = (p s i).orElse fun _ => q s i := rfl
  rw [horElse] at h
  cases hp : p s i with
  | none =>
    rw [hp] at h
    exact Or.inr h
  | some =>
    rw [hp] at h
    exact Or.inl h

end success

/-! ### Reading -/

/-- Nothing more is said of a result. -/
def Any {α : Type} (_ : α) : Prop := True

theorem any {α : Type} (a : α) : Any a := trivial

/-- Where the pieces `acc` stand in a row before the parser, its result holds them and what it
    reads, and has the property. -/
def ReadsOn {α : Type} [HasPieces α] (acc : List Piece) (p : Parser α) (Q : α → Prop) : Prop :=
  ∀ (s : Source) (start i : Nat) (a : α) (j : Nat), Row s start acc i → p s i = some (a, j) →
    Row s start (pieces a) j ∧ Q a

/-- The results of the parser stand where it has read, and have the property. -/
def Reads {α : Type} [HasPieces α] (p : Parser α) (Q : α → Prop) : Prop := ReadsOn [] p Q

section reads

variable {α β : Type} [HasPieces α] [HasPieces β] {acc : List Piece} {p q : Parser α}
  {P Q : α → Prop}

theorem Reads.row (h : Reads p Q) {s : Source} {i j : Nat} {a : α} (hp : p s i = some (a, j)) :
    Row s i (pieces a) j ∧ Q a :=
  h s i i a j (.nil s i) hp

/-- It is enough to know what the parser reads by itself. -/
theorem Reads.of_row
    (h : ∀ s i a j, p s i = some (a, j) → Row s i (pieces a) j ∧ Q a) : Reads p Q := by
  intro s start i a j hstart hp
  obtain ⟨hrow, ha⟩ := h s i a j hp
  exact ⟨hstart.append hrow, ha⟩

namespace ReadsOn

theorem mono (h : ReadsOn acc p P) (hQ : ∀ a, P a → Q a) : ReadsOn acc p Q :=
  fun s start i a j hacc hp => (h s start i a j hacc hp).imp_right (hQ a)

theorem toAny (h : ReadsOn acc p P) : ReadsOn acc p Any := h.mono fun a _ => any a

/-- The first parser adds its pieces to those that stand before it. -/
theorem seq {q : α → Parser β} {R : β → Prop} (hp : Reads p P)
    (hq : ∀ a, P a → ReadsOn (acc ++ pieces a) (q a) R) : ReadsOn acc (p >>= q) R := by
  intro s start i b j hacc h
  obtain ⟨a, k, ha, hb⟩ := bind_parser_eq_some h
  obtain ⟨hrow, hP⟩ := hp.row ha
  exact hq a hP s start k b j (hacc.append hrow) hb

/-- At the end the result is made of all pieces, in whatever parts. -/
theorem pure {a : α} (h : (pieces a).map Piece.bare = acc.map Piece.bare) (hQ : Q a) :
    ReadsOn acc (Pure.pure a) Q := by
  intro s start i b j hacc hb
  obtain ⟨rfl, rfl⟩ := pure_parser_eq_some hb
  exact ⟨hacc.congr h.symm, hQ⟩

theorem orElse (hp : ReadsOn acc p Q) (hq : ReadsOn acc q Q) : ReadsOn acc (p <|> q) Q := by
  intro s start i a j hacc h
  rcases orElse_parser_eq_some h with h | h
  · exact hp s start i a j hacc h
  · exact hq s start i a j hacc h

theorem failure : ReadsOn acc (Alternative.failure : Parser α) Q := fun _ _ _ _ _ _ h => by cases h

theorem firstOf_nil : ReadsOn acc (firstOf ([] : List (Parser α))) Q := failure

theorem firstOf_cons {ps : List (Parser α)} (hp : ReadsOn acc p Q)
    (hps : ReadsOn acc (firstOf ps) Q) : ReadsOn acc (firstOf (p :: ps)) Q :=
  hp.orElse hps

theorem ite {c : Prop} [Decidable c] (hp : c → ReadsOn acc p Q) (hq : ¬ c → ReadsOn acc q Q) :
    ReadsOn acc (if c then p else q) Q := by
  split
  · exact hp ‹_›
  · exact hq ‹_›

/-- One of two parsers comes first, and what follows is the same for both. -/
theorem iteSeq {c : Prop} [Decidable c] {r : α → Parser β} {R : β → Prop} (hp : Reads p P)
    (hq : Reads q P) (hr : ∀ a, P a → ReadsOn (acc ++ pieces a) (r a) R) :
    ReadsOn acc (if c then p >>= r else q >>= r) R :=
  .ite (fun _ => .seq hp hr) fun _ => .seq hq hr

/-- A result may be written in another way that has the same pieces. -/
theorem map {f : α → β} {R : β → Prop} (h : ReadsOn acc p P)
    (hpieces : ∀ a, (pieces (f a)).map Piece.bare = (pieces a).map Piece.bare)
    (hR : ∀ a, P a → R (f a)) : ReadsOn acc (f <$> p) R := by
  intro s start i b j hacc hb
  obtain ⟨a, ha, rfl⟩ := map_parser_eq_some hb
  obtain ⟨hrow, hP⟩ := h s start i a j hacc ha
  exact ⟨hrow.congr (hpieces a).symm, hR a hP⟩

/-- The pieces before a parser may be replaced by others that stand in their place. -/
theorem replace {acc' : List Piece} (h : ReadsOn acc' p Q)
    (hrow : ∀ s start i, Row s start acc i → Row s start acc' i) : ReadsOn acc p Q :=
  fun s start i a j hacc hp => h s start i a j (hrow s start i hacc) hp

end ReadsOn

theorem Reads.mono (h : Reads p P) (hQ : ∀ a, P a → Q a) : Reads p Q := ReadsOn.mono h hQ

theorem Reads.toAny (h : Reads p P) : Reads p Any := ReadsOn.toAny h

/-! ### Repetitions and choices -/

theorem Reads.optional? (h : Reads p Q) : Reads (optional? p) fun x => ∀ a ∈ x, Q a := by
  refine .orElse (.map h (fun _ => rfl) fun a ha b hb => ?_) (.pure rfl nofun)
  rwa [← Option.mem_some_iff.1 hb]

theorem Reads.many (h : Reads p Q) : Reads (many p) fun xs => ∀ x ∈ xs, Q x := by
  -- `found` holds the results so far, last first
  have hfor : ∀ (n : Nat) (found : List α), (∀ x ∈ found, Q x) →
      ReadsOn (pieces found.reverse) (manyFor p found n) fun xs => ∀ x ∈ xs, Q x := by
    intro n
    induction n with
    | zero => exact fun found hfound => .pure rfl fun x hx => hfound x (List.mem_reverse.1 hx)
    | succ n ih =>
      intro found hfound s start i xs j hrow hxs
      have hstop : (found.reverse, i) = (xs, j) → Row s start (pieces xs) j ∧ ∀ x ∈ xs, Q x := by
        intro heq
        obtain ⟨rfl, rfl⟩ := Prod.mk.inj heq
        exact ⟨hrow, fun x hx => hfound x (List.mem_reverse.1 hx)⟩
      dsimp only [manyFor] at hxs
      split at hxs
      · rename_i a k ha
        split at hxs
        · obtain ⟨hnext, hQ⟩ := h.row ha
          refine ih (a :: found) (List.forall_mem_cons.2 ⟨hQ, hfound⟩) s start k xs j ?_ hxs
          have hpieces : pieces (a :: found).reverse = pieces found.reverse ++ pieces a := by
            simp [pieces]
          rw [hpieces]
          exact hrow.append hnext
        · exact hstop (Option.some.inj hxs)
      · exact hstop (Option.some.inj hxs)
  exact .of_row fun s i xs j hxs => hfor _ [] nofun s i i xs j (.nil s i) hxs

theorem ReadsOn.extend {f : Piece → Parser Piece} {R : Piece → Prop} {x : Piece}
    (hf : ∀ x, R x → ReadsOn [x] (f x) R) (hacc : acc.map Piece.bare = [x.bare]) (hx : R x) :
    ReadsOn acc (extend f x) R := by
  have hfor : ∀ (n : Nat) (x : Piece), R x → ReadsOn [x] (extendFor f x n) R := by
    intro n
    induction n with
    | zero => exact fun x hx => .pure rfl hx
    | succ n ih =>
      intro x hx s start i y j hrow hy
      have hstop : (x, i) = (y, j) → Row s start (pieces y) j ∧ R y := by
        intro heq
        obtain ⟨rfl, rfl⟩ := Prod.mk.inj heq
        exact ⟨hrow, hx⟩
      dsimp only [extendFor] at hy
      split at hy
      · rename_i z k hz
        split at hy
        · obtain ⟨hnext, hR⟩ := hf x hx s start i z k hrow hz
          exact ih z hR s start k y j hnext hy
        · exact hstop (Option.some.inj hy)
      · exact hstop (Option.some.inj hy)
  exact fun s start i y j hrow hy => hfor _ x hx s start i y j (hrow.congr hacc) hy

end reads

/-! ### Looking ahead -/

section still

variable {α : Type} [HasPieces α] {p : Parser α} {Q : α → Prop}

/-- A parser that does not go on reads nothing. -/
theorem Reads.of_still (h : ∀ s i a j, p s i = some (a, j) → i = j ∧ pieces a = [] ∧ Q a) :
    Reads p Q := by
  refine .of_row fun s i a j hp => ?_
  obtain ⟨rfl, hpieces, hQ⟩ := h s i a j hp
  rw [hpieces]
  exact ⟨.nil s i, hQ⟩

theorem reads_require (b : Bool) : Reads (require b) fun _ => b = true := by
  cases b with
  | true => exact .pure rfl rfl
  | false => exact .failure

theorem reads_looksLike {β : Type} (q : Parser β) : Reads (looksLike q) Any := by
  refine .of_still fun s i b j h => ?_
  rw [looksLike] at h
  split at h <;> exact ⟨(Prod.mk.inj (Option.some.inj h)).2, rfl, any b⟩

theorem reads_notBefore {β : Type} (q : Parser β) : Reads (notBefore q) Any :=
  .seq (reads_looksLike q) fun b _ => (reads_require !b).toAny

/-- A parser that only looks at the source reads nothing. -/
theorem reads_look (f : Source → Nat → α) (h : ∀ a : α, pieces a = []) :
    Reads (fun s i => some (f s i, i)) Any :=
  .of_still fun _ _ a _ hp => ⟨(Prod.mk.inj (Option.some.inj hp)).2, h a, any a⟩

theorem reads_theSource : Reads theSource Any := reads_look _ pieces_source

theorem reads_hasTypes : Reads hasTypes Any := reads_look _ pieces_bool

theorem reads_typesOnly : Reads typesOnly Any :=
  .seq reads_hasTypes fun b _ => (reads_require b).toAny

theorem reads_lineEndsHere : Reads lineEndsHere Any := reads_look _ pieces_bool

theorem reads_sameLine : Reads sameLine Any :=
  .seq reads_lineEndsHere fun b _ => (reads_require !b).toAny

theorem reads_sourceEndsHere : Reads sourceEndsHere Any := reads_look _ pieces_bool

theorem reads_nextMark (op : String) : Reads (nextMark op) Any := reads_look _ pieces_bool

theorem reads_nextMarkOf (ops : List String) : Reads (nextMarkOf ops) Any := by
  refine .of_still fun s i b j h => ?_
  rw [nextMarkOf] at h
  split at h <;> exact ⟨(Prod.mk.inj (Option.some.inj h)).2, rfl, any b⟩

theorem reads_nextWord (w : String) : Reads (nextWord w) Any := reads_looksLike _

end still

/-! ### Words -/

/-- A word of the kind whose end `stop?` says. -/
def Piece.IsWord (kind : Kind) (stop? : Source → Nat → Option Nat) (p : Piece) : Prop :=
  ∃ s i j gap, stop? s i = some j ∧ p.node = .leaf none kind gap (s.slice i j)

/-- A node of the kind that plays no part. -/
structure Piece.IsA (kind : Kind) (p : Piece) : Prop where
  role : p.node.role = none
  kind : p.node.kind = kind

/-- A node that plays no part and is more than a token. -/
structure Piece.IsNamed (p : Piece) : Prop where
  role : p.node.role = none
  named : p.node.kind ≠ .token

theorem Piece.IsA.isNamed {kind : Kind} {p : Piece} (h : p.IsA kind) (hkind : kind ≠ .token) :
    p.IsNamed :=
  ⟨h.role, h.kind.trans_ne hkind⟩

section words

variable {kind : Kind} {stop? : Source → Nat → Option Nat} {p : Piece} {s : Source} {i j : Nat}
  {word : String}

theorem Piece.IsWord.isA (h : p.IsWord kind stop?) : p.IsA kind := by
  obtain ⟨s, i, j, gap, _, hp⟩ := h
  exact ⟨by rw [hp]; rfl, by rw [hp]; rfl⟩

theorem Piece.IsWord.isToken (h : p.IsWord .token stop?)
    (hword : ∀ s i j, stop? s i = some j → s.slice i j = word) : p.node.IsToken word := by
  obtain ⟨s, i, j, gap, hstop, hp⟩ := h
  rw [hp]
  exact ⟨rfl, rfl, hword s i j hstop⟩

theorem reads_leaf_of_regular (hforward : Source.Forward stop?) (hkind : kind ≠ .comment)
    (hregular : ∀ s i j gap, stop? s i = some j →
      (Node.leaf none kind gap (s.slice i j)).Regular) :
    Reads (leaf kind stop?) (Piece.IsWord kind stop?) := by
  refine .of_row fun s i p j h => ?_
  dsimp only [leaf] at h
  split at h
  · rename_i k hk
    obtain ⟨rfl, rfl⟩ := Prod.mk.inj (Option.some.inj h)
    obtain ⟨hgap, htext, hcomments⟩ := s.gap_spec i
    have hforward := hforward s _ k hk
    refine ⟨⟨Nat.le_trans hgap hforward, ?_, ?_⟩, ⟨s, _, k, _, hk, rfl⟩⟩
    · -- the comments, the white space behind them and the word are all that stands there
      show Node.textOfAll false
        (((s.gap i).comments ++ [Node.leaf none kind (s.gap i).blank _]) ++ []) = _
      rw [List.append_nil, Node.textOfAll_append, Node.textOfAll_cons, Node.textOfAll, Node.source,
        Node.textFrom, if_neg Bool.false_ne_true, String.append_empty, ← String.append_assoc, htext,
        Source.slice_append hgap hforward]
    · rw [pieces_piece, List.forall_mem_singleton]
      exact Piece.sound_leaf hcomments hkind (hregular s _ k _ hk)
  · cases h

theorem reads_leaf (hforward : Source.Forward stop?) (hkind : kind ∉ tellingKinds) :
    Reads (leaf kind stop?) (Piece.IsWord kind stop?) :=
  reads_leaf_of_regular hforward (fun h => hkind (h ▸ List.mem_cons_self))
    fun _ _ _ _ _ => Node.regular_of_kind hkind

theorem reads_adjacent (hforward : Source.Forward stop?) (hkind : kind ∉ tellingKinds) :
    Reads (adjacent kind stop?) (Piece.IsWord kind stop?) := by
  refine .of_row fun s i p j h => ?_
  dsimp only [adjacent] at h
  split at h
  · rename_i k hk
    obtain ⟨rfl, rfl⟩ := Prod.mk.inj (Option.some.inj h)
    refine ⟨⟨hforward s i k hk, ?_, ?_⟩, ⟨s, i, k, _, hk, rfl⟩⟩
    · show Node.textOfAll false [Node.leaf none kind "" (s.slice i k)] = _
      rw [Node.textOfAll_cons, Node.textOfAll, Node.source, Node.textFrom,
        if_neg Bool.false_ne_true, String.empty_append, String.append_empty]
    · rw [pieces_piece, List.forall_mem_singleton]
      exact Piece.sound_leaf (List.forall_mem_nil _) (fun h => hkind (h ▸ List.mem_cons_self))
        (Node.regular_of_kind hkind)
  · cases h

theorem slice_of_operatorEnd? {op : List Char} (h : s.operatorEnd? op i = some j) :
    s.slice i j = String.ofList op := by
  rw [Source.operatorEnd?] at h
  split at h
  · rename_i hop
    rw [Bool.and_eq_true] at hop
    rw [← Option.some.inj h, Source.slice_of_startsWith hop.1]
  · cases h

theorem reads_mark (op : String) : Reads (mark op) fun p => p.node.IsToken op :=
  (reads_leaf (Source.forward_operatorEnd? op.toList) (by decide)).mono fun _ h =>
    h.isToken fun _ _ _ hstop => (slice_of_operatorEnd? hstop).trans String.ofList_toList

theorem reads_bracket (c : Char) : Reads (bracket c) (Piece.IsA .token) := by
  refine (reads_leaf (fun s i j h => ?_) (by decide)).mono fun _ h => h.isA
  split at h
  · rw [← Option.some.inj h]
    exact Nat.le_succ i
  · cases h

/-- A name that is chosen by its text. -/
theorem reads_name {C : String → Prop} (hkind : kind ∉ tellingKinds)
    (hstop : ∀ s i j, stop? s i = some j → s.nameEnd? i = some j ∧ C (s.slice i j)) :
    Reads (leaf kind stop?) fun p => p.IsWord kind Source.nameEnd? ∧ C p.node.text := by
  refine (reads_leaf (fun s i j h => Source.forward_nameEnd? s i j (hstop s i j h).1) hkind).mono
    fun p h => ?_
  obtain ⟨s, i, j, gap, hj, hp⟩ := h
  obtain ⟨hname, hC⟩ := hstop s i j hj
  rw [hp]
  exact ⟨⟨s, i, j, gap, hname, hp⟩, hC⟩

theorem reads_anyName (hkind : kind ∉ tellingKinds) :
    Reads (anyName kind) (Piece.IsWord kind Source.nameEnd?) :=
  reads_leaf Source.forward_nameEnd? hkind

theorem reads_freeName (hkind : kind ∉ tellingKinds) :
    Reads (freeName kind) (Piece.IsWord kind Source.nameEnd?) := by
  refine (reads_name (C := Any) hkind fun s i j h => ?_).mono fun _ h => h.1
  grind [any]

theorem reads_wordOf (words : List String) :
    Reads (wordOf words) fun p => ∃ w ∈ words, p.node.IsToken w := by
  refine (reads_name (C := (· ∈ words)) (by decide) fun s i j h => ?_).mono
    fun p h => ⟨_, h.2, h.1.isA.role, h.1.isA.kind, rfl⟩
  grind

theorem reads_word (w : String) : Reads (BundleGraph.Syntax.word w) fun p => p.node.IsToken w := by
  refine (reads_name (C := (· = w)) (by decide) fun s i j h => ?_).mono
    fun p h => ⟨h.1.isA.role, h.1.isA.kind, h.2⟩
  grind

theorem reads_identifier : Reads identifier (Piece.IsWord .identifier Source.nameEnd?) :=
  reads_freeName (by decide)

theorem reads_privateName : Reads privateName (Piece.IsA .privateName) := by
  refine (reads_leaf (fun s i j h => ?_) (by decide)).mono fun _ h => h.isA
  have hname := Source.forward_nameEnd? s (i + 1) j
  grind

theorem reads_numberLiteral : Reads numberLiteral (Piece.IsA .number) :=
  (reads_leaf Source.forward_numberEnd? (by decide)).mono fun _ h => h.isA

/-- A word between equal quotation marks is a string. -/
theorem reads_string (hstop : ∀ s i j, stop? s i = some j →
      ∃ q ∈ Source.quotes, ∃ k, i < k ∧ j = k + 1 ∧ s.at? i = some q ∧ s.at? k = some q) :
    Reads (leaf .string stop?) fun p =>
      p.IsA .string ∧ ∃ q content, p.node.IsLiteral q content := by
  have hliteral : ∀ s i j gap, stop? s i = some j →
      ∃ q content, (Node.leaf none .string gap (s.slice i j)).IsLiteral q content := by
    intro s i j gap h
    obtain ⟨q, hq, k, hlt, rfl, hi, hk⟩ := hstop s i j h
    exact ⟨q, _, rfl, hq, Source.slice_quoted hi hk hlt⟩
  have hleaf : Reads (leaf .string stop?) (Piece.IsWord .string stop?) := by
    refine reads_leaf_of_regular (fun s i j h => ?_) (by decide) fun s i j gap h => ?_
    · obtain ⟨_, _, k, hlt, rfl, _⟩ := hstop s i j h
      omega
    · exact ⟨nofun, fun _ => hliteral s i j gap h, nofun, nofun, nofun⟩
  refine hleaf.mono fun p h => ?_
  obtain ⟨s, i, j, gap, hj, hp⟩ := h
  refine ⟨Piece.IsWord.isA ⟨s, i, j, gap, hj, hp⟩, ?_⟩
  rw [hp]
  exact hliteral s i j gap hj

theorem reads_stringLiteral :
    Reads stringLiteral fun p => p.IsA .string ∧ ∃ q content, p.node.IsLiteral q content :=
  reads_string fun _ _ _ h => Source.stringEnd?_spec h

end words

/-! ### Nodes -/

/-- A node that is made of sound pieces with the property. -/
def Piece.IsMadeOf (kind : Kind) (Q : List Piece → Prop) (x : Piece) : Prop :=
  ∃ ps, x = Piece.branch kind ps ∧ (∀ p ∈ ps, p.Sound) ∧ Q ps

section nodes

variable {acc ps : List Piece} {kind : Kind} {p : Parser (List Piece)} {Q : List Piece → Prop}
  {R : Piece → Prop}

theorem Piece.IsMadeOf.isA {x : Piece} (h : x.IsMadeOf kind Q) : x.IsA kind := by
  obtain ⟨ps, rfl, _⟩ := h
  exact ⟨role_branch, kind_branch⟩

/-- What a node is made of, as far as it is no comment. -/
theorem Piece.IsMadeOf.constituents {x : Piece} (h : x.IsMadeOf kind Q) :
    ∃ ps, x.node.constituents = ps.map Piece.node ∧ Q ps := by
  obtain ⟨ps, rfl, hsound, hQ⟩ := h
  exact ⟨ps, constituents_branch hsound, hQ⟩

/-- All pieces before a place as one node. -/
theorem Row.all {s : Source} {i j : Nat} (h : Row s i acc j)
    (hps : ps.map Piece.bare = acc.map Piece.bare) (hkind : kind ≠ .comment)
    (hregular : (∀ p ∈ ps, p.Sound) → (Piece.branch kind ps).node.Regular) :
    Row s i [Piece.branch kind ps] j := by
  have hrow : Row s i ([] ++ ps ++ []) j := by
    rw [List.nil_append, List.append_nil]
    exact h.congr hps.symm
  exact hrow.branch fun hsound => .branch hsound hkind (hregular hsound)

theorem ReadsOn.branchOf (h : ps.map Piece.bare = acc.map Piece.bare) (hkind : kind ≠ .comment)
    (hregular : (∀ p ∈ ps, p.Sound) → (Piece.branch kind ps).node.Regular)
    (hR : (∀ p ∈ ps, p.Sound) → R (Piece.branch kind ps)) :
    ReadsOn acc (Pure.pure (Piece.branch kind ps)) R := by
  intro s start i x j hacc hx
  obtain ⟨rfl, rfl⟩ := pure_parser_eq_some hx
  exact ⟨hacc.all h hkind hregular, hR (hacc.congr h.symm).sound⟩

theorem ReadsOn.branch (h : ps.map Piece.bare = acc.map Piece.bare) (hkind : kind ∉ tellingKinds)
    (hR : (∀ p ∈ ps, p.Sound) → R (Piece.branch kind ps)) :
    ReadsOn acc (Pure.pure (Piece.branch kind ps)) R := by
  refine .branchOf h (fun hc => hkind (hc ▸ List.mem_cons_self)) (fun _ => ?_) hR
  exact Node.regular_of_kind (Piece.kind_branch ▸ hkind)

/-- A piece alone, or with more pieces as one node. -/
theorem ReadsOn.wrapped {x : Piece} (hkind : kind ∉ tellingKinds) (hx : R x)
    (hR : ∀ y, y.IsA kind → R y) (h : acc.map Piece.bare = x.bare :: ps.map Piece.bare) :
    ReadsOn acc (Pure.pure (if ps.isEmpty then x else Piece.branch kind (x :: ps))) R := by
  cases ps with
  | nil => exact .pure h.symm hx
  | cons y ys =>
    have hall : (x :: y :: ys).map Piece.bare = acc.map Piece.bare := h.symm
    exact .branch hall hkind fun _ => hR _ ⟨Piece.role_branch, Piece.kind_branch⟩

/-- As `ReadsOn.wrapped`, where it matters only that the node is more than a token. -/
theorem ReadsOn.named_wrapped {x : Piece} (hx : x.IsNamed) (hkind : kind ∉ .token :: tellingKinds)
    (h : acc.map Piece.bare = x.bare :: ps.map Piece.bare) :
    ReadsOn acc (Pure.pure (if ps.isEmpty then x else Piece.branch kind (x :: ps)))
      Piece.IsNamed := by
  rw [List.mem_cons, not_or] at hkind
  exact .wrapped hkind.2 hx (fun y hy => hy.isNamed hkind.1) h

/-- Pieces that are read make a node, which is regular because of what they are. -/
theorem ReadsOn.nodeOf (h : ReadsOn acc p Q) (hkind : kind ≠ .comment)
    (hregular : ∀ ps, (∀ p ∈ ps, p.Sound) → Q ps → (Piece.branch kind ps).node.Regular) :
    ReadsOn acc (node kind p) (Piece.IsMadeOf kind Q) := by
  intro s start i x j hacc hx
  obtain ⟨ps, hps, rfl⟩ := map_parser_eq_some hx
  obtain ⟨hrow, hQ⟩ := h s start i ps j hacc hps
  rw [pieces_list] at hrow
  exact ⟨hrow.all rfl hkind fun hsound => hregular ps hsound hQ, ps, rfl, hrow.sound, hQ⟩

/-- Nodes of most kinds are regular whatever they are made of. -/
theorem ReadsOn.nodeIs (hkind : kind ∉ tellingKinds) (h : ReadsOn acc p Q) :
    ReadsOn acc (node kind p) (Piece.IsMadeOf kind Q) :=
  h.nodeOf (fun hc => hkind (hc ▸ List.mem_cons_self))
    fun _ _ _ => Node.regular_of_kind (Piece.kind_branch ▸ hkind)

theorem ReadsOn.node (hkind : kind ∉ .token :: tellingKinds) (h : ReadsOn acc p Any) :
    ReadsOn acc (node kind p) Piece.IsNamed := by
  rw [List.mem_cons, not_or] at hkind
  exact (h.nodeIs hkind.2).mono fun x hx => hx.isA.isNamed hkind.1

end nodes

/-! ### Lists of pieces -/

section lists

variable {acc : List Piece} {p q : Parser Piece} {ps : Parser (List Piece)} {P : Piece → Prop}
  {Q : List Piece → Prop}

theorem ReadsOn.one (h : ReadsOn acc p P) : ReadsOn acc (one p) fun xs => ∃ x, xs = [x] ∧ P x :=
  h.map (fun _ => rfl) fun x hx => ⟨x, rfl, hx⟩

theorem ReadsOn.one_forall (h : ReadsOn acc p P) :
    ReadsOn acc (Syntax.one p) fun xs => ∀ x ∈ xs, P x := by
  refine h.one.mono fun xs hxs => ?_
  obtain ⟨x, rfl, hx⟩ := hxs
  exact List.forall_mem_singleton.2 hx

theorem Reads.emptyOr (h : Reads ps Q) : Reads (orEmpty ps) fun xs => xs = [] ∨ Q xs :=
  .orElse (h.mono fun _ hx => Or.inr hx) (.pure rfl (Or.inl rfl))

theorem Reads.orEmpty (h : Reads ps Any) : Reads (orEmpty ps) Any := h.emptyOr.toAny

theorem Reads.atMostOne (h : Reads p P) : Reads (atMostOne p) fun xs => ∀ x ∈ xs, P x := by
  refine (Reads.emptyOr (ReadsOn.one_forall h)).mono fun xs hxs => ?_
  rcases hxs with rfl | hxs
  · exact nofun
  · exact hxs

theorem reads_manyPieces (h : Reads ps fun xs => ∀ x ∈ xs, P x) :
    Reads (manyPieces ps) fun xs => ∀ x ∈ xs, P x := by
  refine (Reads.many h).map (fun xs => by simp) fun xs hxs x hx => ?_
  obtain ⟨ys, hys, hx⟩ := List.mem_flatten.1 hx
  exact hxs ys hys x hx

theorem Reads.manyPieces (h : Reads ps Any) : Reads (manyPieces ps) Any :=
  (reads_manyPieces (h.mono fun _ _ x _ => any x)).toAny

/-- Pieces between commas. -/
def Between (P : Piece → Prop) (x : Piece) : Prop := x.node.IsToken "," ∨ P x

theorem reads_commaList {holes : Bool} (h : Reads ps fun xs => ∀ x ∈ xs, P x) :
    Reads (commaList holes ps) fun xs => ∀ x ∈ xs, Between P x := by
  -- `found` holds the pieces so far, last first
  have hfor : ∀ (n : Nat) (found : List Piece), (∀ x ∈ found, Between P x) →
      ReadsOn found.reverse (commaListFor holes ps found n) fun xs => ∀ x ∈ xs, Between P x := by
    intro n
    induction n with
    | zero =>
      intro found hfound
      exact .pure (by simp) fun x hx => hfound x (List.mem_reverse.1 hx)
    | succ n ih =>
      intro found hfound
      refine .seq h.optional? fun item hitem => ?_
      have hnext : ∀ x ∈ (item.getD []).reverse ++ found, Between P x := by
        rw [List.forall_mem_append]
        refine ⟨fun x hx => ?_, hfound⟩
        cases item with
        | none => cases hx
        | some xs => exact Or.inr (hitem xs rfl x (List.mem_reverse.1 hx))
      have hpieces : found.reverse ++ pieces item =
          ((item.getD []).reverse ++ found).reverse := by
        cases item <;> simp
      have hend : ReadsOn (found.reverse ++ pieces item)
          (pure ((item.getD []).reverse ++ found).reverse) fun xs => ∀ x ∈ xs, Between P x :=
        .pure (by rw [hpieces, pieces_list]) fun x hx => hnext x (List.mem_reverse.1 hx)
      refine .ite (fun _ => .seq (reads_mark ",").optional? fun comma hc => ?_) fun _ => hend
      cases comma with
      | none => simpa using hend
      | some c =>
        rw [hpieces]
        have := ih (c :: ((item.getD []).reverse ++ found))
          (List.forall_mem_cons.2 ⟨Or.inl (hc c rfl), hnext⟩)
        simpa using this
  exact .of_row fun s i xs j hxs => hfor _ [] nofun s i i xs j (.nil s i) hxs

theorem Reads.commaList {holes : Bool} (h : Reads ps Any) : Reads (commaList holes ps) Any :=
  (reads_commaList (h.mono fun _ _ x _ => any x)).toAny

theorem reads_commaList1 (h : Reads ps fun xs => ∀ x ∈ xs, P x) :
    Reads (commaList1 ps) fun xs => ∀ x ∈ xs, Between P x := by
  refine .seq h fun first hfirst => .seq (reads_manyPieces (P := Between P) ?_) fun rest hrest => ?_
  · refine .seq (reads_mark ",") fun c hc => .seq h fun item hitem => .pure (by simp) ?_
    exact List.forall_mem_cons.2 ⟨Or.inl hc, fun x hx => Or.inr (hitem x hx)⟩
  · refine .pure (by simp) (List.forall_mem_append.2 ⟨fun x hx => Or.inr (hfirst x hx), hrest⟩)

theorem Reads.commaList1 (h : Reads ps Any) : Reads (commaList1 ps) Any :=
  (reads_commaList1 (h.mono fun _ _ x _ => any x)).toAny

/-- Pieces with a bracket before them and one behind them. -/
def Enclosed (opening : String) (Q : List Piece → Prop) (closing : String) (xs : List Piece) :
    Prop :=
  ∃ o inside c, xs = o :: inside ++ [c] ∧ o.node.IsToken opening ∧ Q inside ∧ c.node.IsToken closing

theorem reads_enclosed {opening closing : String} (h : Reads ps Q) :
    Reads (enclosed opening ps closing) (Enclosed opening Q closing) := by
  refine .seq (reads_mark opening) fun o ho => ?_
  refine .seq h fun xs hxs => ?_
  refine .seq (reads_mark closing) fun c hc => ?_
  exact .pure (by simp) ⟨o, xs, c, rfl, ho, hxs, hc⟩

/-- The end of a statement is a semicolon or nothing. -/
theorem reads_semicolon : Reads semicolon fun xs => ∀ x ∈ xs, x.node.IsToken ";" := by
  refine .seq (reads_nextMark ";") fun semicolonIsNext _ => .ite (fun _ => ?_) fun _ => ?_
  · exact ReadsOn.one_forall (reads_mark ";")
  · refine .seq (reads_nextMark closeBrace) fun _ _ => ?_
    refine .seq reads_lineEndsHere fun _ _ => ?_
    refine .seq reads_sourceEndsHere fun _ _ => ?_
    exact .seq (reads_require _) fun _ _ => .pure rfl nofun

end lists

end BundleGraph.Syntax
