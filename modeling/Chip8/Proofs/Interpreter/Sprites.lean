import Chip8.Proofs.Interpreter.Frame
import Chip8.Proofs.Interpreter.Words

/-!
Sprites on the screen.

A sprite is drawn by inverting pixels one after another, and VF tells whether one of them was lit
when its turn came. A sprite is lower and narrower than the screen, so its cells fall on pixels of
their own even when it wraps around (`nodup_pixels`). Every pixel is then inverted once at most, and
what was lit when its turn came was lit before; so the screen after a draw can be told pixel by
pixel, by looking up in the sprite what lies at its place (`Hits`, `draws_sprite`).
-/

namespace Chip8.Interpreter

open Pattern (Fits)

variable {m : Interpreter} {w : Word} {random : Nat → UInt8}

/-! ### Inverting pixels -/

section Toggle

variable {ks : List (Fin (screenWidth * screenHeight))}

/-- Each of some different pixels is inverted, and no other. -/
lemma get_foldl_toggle (nodup : ks.Nodup) (s : Screen × Bool)
    (k : Fin (screenWidth * screenHeight)) :
    (ks.foldl toggle s).1.get k = if k ∈ ks then !s.1.get k else s.1.get k := by
  induction ks generalizing s with
  | nil => rfl
  | cons a ks ih =>
    obtain ⟨hnotin, hnodup⟩ := List.nodup_cons.1 nodup
    rw [List.foldl_cons, ih hnodup]
    by_cases ha : k = a
    · subst ha
      rw [if_neg hnotin, if_pos List.mem_cons_self]
      exact Vector.getElem_set_self ..
    · have hsame : (toggle s a).1.get k = s.1.get k :=
        Vector.getElem_set_ne a.isLt k.isLt fun h => ha (Fin.ext h.symm)
      rw [hsame]
      simp only [List.mem_cons, ha, false_or]

/-- It is noticed if one of them was lit before. -/
lemma snd_foldl_toggle_iff (nodup : ks.Nodup) (s : Screen × Bool) :
    (ks.foldl toggle s).2 = true ↔ s.2 = true ∨ ∃ k ∈ ks, s.1.get k = true := by
  induction ks generalizing s with
  | nil => simp
  | cons a ks ih =>
    obtain ⟨hnotin, hnodup⟩ := List.nodup_cons.1 nodup
    have hsame : ∀ k ∈ ks, (toggle s a).1.get k = s.1.get k := fun k hk =>
      Vector.getElem_set_ne a.isLt k.isLt fun h => hnotin (Fin.ext h ▸ hk)
    have hrest : (∃ k ∈ ks, (toggle s a).1.get k = true) ↔ ∃ k ∈ ks, s.1.get k = true :=
      exists_congr fun k => and_congr_right fun hk => by rw [hsame k hk]
    rw [List.foldl_cons, ih hnodup, hrest, List.exists_mem_cons_iff, ← or_assoc]
    exact or_congr_left Bool.or_eq_true_iff

end Toggle

/-! ### Cells of a sprite -/

lemma mem_spriteCells {rows : List UInt8} {r c : Nat} : (r, c) ∈ spriteCells rows ↔
    c < 8 ∧ ∃ bits, rows[r]? = some bits ∧ bits.toNat.testBit (7 - c) = true := by
  simp only [spriteCells, litColumns, List.mem_flatMap, List.mem_map, Prod.exists, Prod.mk.injEq,
    List.mem_filter, List.mem_range, List.mem_zipIdx_iff_getElem?]
  constructor
  · rintro ⟨bits, _, hbits, _, ⟨hc, hset⟩, rfl, rfl⟩
    exact ⟨hc, bits, hbits, hset⟩
  · rintro ⟨hc, bits, hbits, hset⟩
    exact ⟨bits, r, hbits, c, ⟨hc, hset⟩, rfl, rfl⟩

lemma nodup_spriteCells (rows : List UInt8) : (spriteCells rows).Nodup := by
  have hrows : rows.zipIdx.Pairwise fun a b => a.2 ≠ b.2 := by
    rw [← List.pairwise_map, List.zipIdx_map_snd]
    exact List.nodup_range'
  rw [spriteCells, List.nodup_flatMap]
  refine ⟨fun a _ => ?_, hrows.imp fun {a b} hne => ?_⟩
  · exact (List.nodup_range.filter _).map fun _ _ h => (Prod.mk.inj h).2
  · rw [Function.onFun, List.disjoint_left]
    rintro cell ha hb
    obtain ⟨_, -, rfl⟩ := List.mem_map.1 ha
    obtain ⟨_, -, h⟩ := List.mem_map.1 hb
    exact hne (Prod.mk.inj h).1.symm

/-- The cells of a sprite that is not higher than the screen fall on different pixels. -/
lemma nodup_pixels {rows : List UInt8} (fits : rows.length ≤ screenHeight) (originX originY : Nat) :
    ((spriteCells rows).map (pixelOf originX originY)).Nodup := by
  refine (nodup_spriteCells rows).map_on ?_
  rintro ⟨r, c⟩ hcell ⟨r', c'⟩ hcell' h
  obtain ⟨hc, _, hr, -⟩ := mem_spriteCells.1 hcell
  obtain ⟨hc', _, hr', -⟩ := mem_spriteCells.1 hcell'
  have hlt := (List.getElem?_eq_some_iff.1 hr).1
  have hlt' := (List.getElem?_eq_some_iff.1 hr').1
  have hval := congrArg Fin.val h
  simp only [pixelOf, screenWidth, screenHeight] at hval fits
  refine Prod.ext ?_ ?_ <;> dsimp only <;> omega

/-! ### Pixels by their coordinates -/

/-- The pixel at a column and a row of the screen. -/
def pixelAt (x : Fin screenWidth) (y : Fin screenHeight) : Fin (screenWidth * screenHeight) :=
  ⟨x + screenWidth * y, by
    have hx := x.isLt
    have hy := y.isLt
    simp only [screenWidth, screenHeight] at hx hy ⊢
    omega⟩

/-- Whether the pixel at a column and a row is lit. -/
def IsLit (m : Interpreter) (x : Fin screenWidth) (y : Fin screenHeight) : Prop :=
  m.screen.get (pixelAt x y) = true

/-- A pixel is hit by the sprite that a word draws: told from the origin, and beyond the edges of
the screen from the other side, it lies in a row and a column of the sprite, and the bit there is
set. -/
def Hits (m : Interpreter) (w : Word) (x : Fin screenWidth) (y : Fin screenHeight) : Prop :=
  let row : Int := ((y : Int) - (m.reg w.y).toNat) % screenHeight
  let column : Int := ((x : Int) - (m.reg w.x).toNat) % screenWidth
  row < w.n ∧ column < 8 ∧ ∃ bits, m.memory.load (m.registers.i + row) = .ok bits ∧
    bits.toNat.testBit (7 - column.toNat) = true

/-- The pixels that a sprite at an origin inverts. -/
def spritePixels (m : Interpreter) (w : Word) : List (Fin (screenWidth * screenHeight)) :=
  (spriteCells (m.block w.n)).map (pixelOf (m.reg w.x).toNat (m.reg w.y).toNat)

/-- Every pixel has its column and row. -/
lemma exists_pixelAt (k : Fin (screenWidth * screenHeight)) : ∃ x y, pixelAt x y = k := by
  have hk := k.isLt
  simp only [screenWidth, screenHeight] at hk
  refine ⟨⟨k % screenWidth, Nat.mod_lt _ (by decide)⟩, ⟨k / screenWidth, ?_⟩, Fin.ext ?_⟩
  · simp only [screenWidth, screenHeight]
    omega
  · exact Nat.mod_add_div ..

/-- The pixels that are inverted are those that are hit. -/
lemma mem_spritePixels_iff (inside : 0 ≤ m.registers.i ∧ m.registers.i + w.n ≤ 4096)
    {x : Fin screenWidth} {y : Fin screenHeight} :
    pixelAt x y ∈ m.spritePixels w ↔ m.Hits w x y := by
  have hx := x.isLt
  have hy := y.isLt
  have hn := w.n_lt
  simp only [screenWidth, screenHeight] at hx hy
  simp only [spritePixels, List.mem_map, Prod.exists, mem_spriteCells,
    getElem?_block_eq_some_iff inside, pixelAt, pixelOf, Fin.mk.injEq, Hits, screenWidth,
    screenHeight]
  constructor
  · rintro ⟨r, c, ⟨hc, bits, ⟨hr, hload⟩, hset⟩, hpixel⟩
    have hrow : ((y : Int) - (m.reg w.y).toNat) % (32 : Nat) = r := by omega
    have hcolumn : ((x : Int) - (m.reg w.x).toNat) % (64 : Nat) = c := by omega
    rw [hrow, hcolumn]
    exact ⟨by omega, by omega, bits, hload, hset⟩
  · rintro ⟨hr, hc, bits, hload, hset⟩
    refine ⟨(((y : Int) - (m.reg w.y).toNat) % (32 : Nat)).toNat,
      (((x : Int) - (m.reg w.x).toNat) % (64 : Nat)).toNat,
      ⟨by omega, bits, ⟨by omega, ?_⟩, hset⟩, by omega⟩
    rwa [Int.toNat_of_nonneg (by omega)]

/-! ### Drawing -/

/-- What a draw leaves: hit pixels are inverted, and VF tells whether one of them was lit. -/
structure Draws (w : Word) (m after : Interpreter) : Prop where
  pixels : ∀ x y, after.IsLit x y ↔ Xor (m.IsLit x y) (m.Hits w x y)
  collision : (∃ x y, m.IsLit x y ∧ m.Hits w x y) → after.reg flagRegister = 1
  clear : (∀ x y, ¬(m.IsLit x y ∧ m.Hits w x y)) → after.reg flagRegister = 0

lemma draws_withSprite (inside : 0 ≤ m.registers.i ∧ m.registers.i + w.n ≤ 4096) :
    Draws w m (m.withSprite (m.reg w.x).toNat (m.reg w.y).toNat (m.block w.n)) := by
  have hlow : (m.block w.n).length ≤ screenHeight := by
    have hle := m.length_block_le w.n
    have hn := w.n_lt
    simp only [screenHeight]
    omega
  have nodup : (m.spritePixels w).Nodup := nodup_pixels hlow _ _
  have hflag : ((m.spritePixels w).foldl toggle (m.screen, false)).2 = true ↔
      ∃ x y, m.IsLit x y ∧ m.Hits w x y := by
    rw [snd_foldl_toggle_iff nodup, or_iff_right Bool.false_ne_true]
    constructor
    · rintro ⟨k, hk, hlit⟩
      obtain ⟨x, y, rfl⟩ := exists_pixelAt k
      exact ⟨x, y, hlit, (mem_spritePixels_iff inside).1 hk⟩
    · rintro ⟨x, y, hlit, hits⟩
      exact ⟨pixelAt x y, (mem_spritePixels_iff inside).2 hits, hlit⟩
  have hvf : (m.withSprite (m.reg w.x).toNat (m.reg w.y).toNat (m.block w.n)).reg flagRegister =
      if ((m.spritePixels w).foldl toggle (m.screen, false)).2 then 1 else 0 := by
    rw [withSprite, reg_setReg, if_pos rfl]
    rfl
  refine ⟨fun x y => ?_, fun hits => ?_, fun misses => ?_⟩
  · change ((m.spritePixels w).foldl toggle (m.screen, false)).1.get (pixelAt x y) = true ↔ _
    rw [get_foldl_toggle nodup, IsLit, ← mem_spritePixels_iff inside]
    by_cases hk : pixelAt x y ∈ m.spritePixels w
    · rw [if_pos hk]
      simp [Xor, hk]
    · rw [if_neg hk]
      simp [Xor, hk]
  · rw [hvf, if_pos (hflag.2 hits)]
  · rw [hvf, if_neg fun h => ?_]
    obtain ⟨x, y, hlit⟩ := hflag.1 h
    exact misses x y hlit

/-- **A sprite is drawn pixel by pixel.** Take any processor that a host can bring about, with the
standard table. If the next word draws a sprite whose bytes lie in memory, the tick succeeds; every
pixel of the screen is inverted if the sprite hits it, with wrap around at the edges, and stays as
it was otherwise; and VF is one if a lit pixel was hit and zero if none was. Where the sprite is
drawn is told by the registers before the tick, also if one of them is VF. -/
theorem draws_sprite (random : Nat → UInt8) (requests : List Request) :
    let m := run { random } initial requests
    ∀ w, m.fetch = .ok w → Fits "DXYN" w → m.registers.i + w.n ≤ 4096 →
      (m.tick { random }).1 = .ok () ∧ Draws w m (m.tick { random }).2 := by
  intro m w fetched reads fits
  have h : m.InRange := inRange_initial.run requests
  obtain ⟨inside, rfl⟩ := h.eq_word_of_fetch fetched
  have block : 0 ≤ m.registers.i ∧ m.registers.i + m.word.n ≤ 4096 := ⟨h.index.1, fits⟩
  have runs : m.Runs .draw := ⟨inside, reads⟩
  have go : m.skip.refusal .draw m.word = none := if_pos block
  rw [h.tick_of_go runs go]
  have drawn : Draws m.word m.skip (m.skip.successor { random } .draw m.word) :=
    draws_withSprite block
  exact ⟨rfl, drawn.pixels, drawn.collision, drawn.clear⟩

/-- The digit 0 is drawn over the lower right corner, and then over the lower left one: the column
of the second draw is the flag of the first, and the two share pixels. -/
theorem draws_sprite_corner :
    let program := [0x6F, 0x3E, 0x61, 0x1E, 0xDF, 0x15, 0xDF, 0x15]
    let m := run {} initial [.write 0x200 program, .tick, .tick, .tick]
    ∃ w, m.fetch = .ok w ∧ Fits "DXYN" w ∧ m.registers.i + w.n ≤ 4096 ∧
      m.reg flagRegister = 0 ∧ m.IsLit 0 30 ∧ ¬(m.tick {}).2.IsLit 0 30 ∧
      (m.tick {}).2.reg flagRegister = 1 ∧ (m.tick {}).1 = .ok () ∧ Draws w m (m.tick {}).2 := by
  intro program m
  have trace : m.fetch = .ok ⟨0xDF15, by decide⟩ ∧ m.registers.i = 0 ∧ m.reg flagRegister = 0 ∧
      m.IsLit 0 30 ∧ ¬(m.tick {}).2.IsLit 0 30 ∧ (m.tick {}).2.reg flagRegister = 1 := by
    unfold IsLit
    decide +kernel
  obtain ⟨fetched, index, flag, lit, dark, collided⟩ := trace
  have reads : Fits (Table.patternOf .draw) ⟨0xDF15, by decide⟩ :=
    Table.fits_of_routine (by decide +kernel)
  have fits : m.registers.i + (⟨0xDF15, by decide⟩ : Word).n ≤ 4096 := by
    rw [index]
    decide
  exact ⟨_, fetched, reads, fits, flag, lit, dark, collided,
    draws_sprite (fun _ => 0) [.write 0x200 program, .tick, .tick, .tick] _ fetched reads fits⟩

end Chip8.Interpreter
