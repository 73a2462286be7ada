import Cinema.Numerics.Nearest
import Cinema.Orders.OrdersService

/-!
# Totals

Prices are numbers that the driver reads from decimal text; a total takes one
multiplication by 100, one by the quantity and one division by 100, and is
printed again for its column.  If no rounding errs by more than one part in
`2 ^ 53`, the column holds the exact amount.
-/

namespace Cinema.Orders

open Relational Shared Numerics

/-- The bound on the relative error of one rounding. -/
def unitRoundoff : ℚ := 1 / 2 ^ 53

/-- A rounding of exact values, as in reading or printing decimal text. -/
def Faithful (convert : ℚ → ℚ) : Prop :=
  ∀ value, Within unitRoundoff value (convert value)

structure Arithmetic.Faithful (arithmetic : Arithmetic) : Prop where
  mul : ∀ x y, Within unitRoundoff (x * y) (arithmetic.mul x y)
  div : ∀ x y, Within unitRoundoff (x / y) (arithmetic.div x y)

/-- `decimalTransformer.from`, where `number` is the conversion `Number`. -/
def decimalTransformerFrom {precision scale : Nat} (number : ℚ → ℚ)
    (stored : Numeric precision scale) : ℚ :=
  number stored.read

/-- The arithmetic of doubles, whose exponents all amounts are far within. -/
def Arithmetic.binary64 : Arithmetic where
  mul x y := toNearest 53 (x * y)
  div x y := toNearest 53 (x / y)

theorem Arithmetic.faithful_binary64 : Arithmetic.binary64.Faithful where
  mul x y := toNearest_within 53 (x * y)
  div x y := toNearest_within 53 (x / y)

theorem faithful_toNearest : Faithful (toNearest 53) := toNearest_within 53

/-- An order whose amounts are sent as decimal text. -/
def inText (print : ℚ → ℚ) (order : Order) : Order :=
  { order with
    ticketPrice := order.ticketPrice.map print
    totalPrice := order.totalPrice.map print }

section Totals

variable {arithmetic : Arithmetic} {number : ℚ → ℚ}

private theorem unitRoundoff_nonneg : 0 ≤ unitRoundoff := by
  norm_num [unitRoundoff]

/-- Any amount below `10 ^ 12` cents is recovered from its decimal text. -/
theorem toCents_read (faithful : arithmetic.Faithful)
    (reads : Faithful number) {precision : Nat} (stored : Numeric precision 2)
    (nonneg : 0 ≤ stored.units) (small : stored.units < 10 ^ 12) :
    toCents arithmetic (decimalTransformerFrom number stored) =
      stored.units := by
  have parsed : Within unitRoundoff (stored.units : ℚ)
      (number stored.read * 100) := by
    have scaled := (reads stored.read).mul_const 100
    have exact : stored.read * 100 = stored.units := by
      rw [← Numeric.read_mul_scale stored]
      norm_num
    rwa [exact] at scaled
  have product := parsed.trans (faithful.mul (number stored.read) 100)
    unitRoundoff_nonneg
  have bounded : |(stored.units : ℚ)| ≤ 10 ^ 12 := by
    rw [abs_of_nonneg (by exact_mod_cast nonneg)]
    exact_mod_cast small.le
  have near : |arithmetic.mul (number stored.read) 100 - stored.units| <
      1 / 2 :=
    product.abs_sub_lt (by norm_num [unitRoundoff]) bounded
      (by norm_num [unitRoundoff])
  unfold toCents decimalTransformerFrom
  rw [floor_add_half_eq near]

/-- A price that is read and printed again is stored as it was. -/
theorem write_read_printed (reads : Faithful number) {print : ℚ → ℚ}
    (prints : Faithful print) {precision : Nat} (stored : Numeric precision 2)
    (small : |stored.units| < 10 ^ 12) :
    Numeric.write precision 2 (print (decimalTransformerFrom number stored)) =
      .ok stored := by
  have copied := ((reads stored.read).trans (prints _)
    unitRoundoff_nonneg).mul_const (10 ^ 2)
  rw [Numeric.read_mul_scale stored] at copied
  have bounded : |(stored.units : ℚ)| ≤ 10 ^ 12 := by
    exact_mod_cast small.le
  have near : |print (number stored.read) * 10 ^ 2 - stored.units| < 1 / 2 :=
    copied.abs_sub_lt (by norm_num [unitRoundoff]) bounded
      (by norm_num [unitRoundoff])
  obtain ⟨written, isWritten, same⟩ :=
    @Numeric.write_of_near precision 2 _ _ near stored.inRange
  rw [decimalTransformerFrom, isWritten]
  exact congrArg _ (Numeric.ext same)

/-- The total of a number of cents and a quantity, printed with one more
rounding, is stored exactly. -/
theorem write_fromCents (faithful : arithmetic.Faithful)
    {cents quantity : ℤ} (nonneg : 0 ≤ cents * quantity)
    (small : cents * quantity < 10 ^ 12) {printed : ℚ}
    (prints : Within unitRoundoff
      (fromCents arithmetic (arithmetic.mul cents quantity)) printed) :
    ∃ stored : Numeric 12 2, Numeric.write 12 2 printed = .ok stored ∧
      stored.units = cents * quantity := by
  have product := (faithful.mul cents quantity).div_const 100
  have total := (product.trans (faithful.div _ 100)
    unitRoundoff_nonneg).trans prints unitRoundoff_nonneg
  have scaled := total.mul_const (10 ^ 2)
  have exact : (cents : ℚ) * quantity / 100 * 10 ^ 2 =
      ((cents * quantity : ℤ) : ℚ) := by
    push_cast
    ring
  rw [exact] at scaled
  have inRange : |cents * quantity| < 10 ^ 12 := by
    rwa [abs_of_nonneg nonneg]
  have bounded : |((cents * quantity : ℤ) : ℚ)| ≤ 10 ^ 12 := by
    exact_mod_cast inRange.le
  have near : |printed * 10 ^ 2 - ((cents * quantity : ℤ) : ℚ)| < 1 / 2 :=
    scaled.abs_sub_lt (by norm_num [unitRoundoff]) bounded
      (by norm_num [unitRoundoff])
  exact Numeric.write_of_near near inRange

end Totals

/-- Whatever is rounded on the way, a total is stored as the price times the
quantity, and it is read back as that; so the row of an order that the service
creates holds the price of the movie and this total. -/
theorem totals_exact {arithmetic reading : Arithmetic}
    (faithful : arithmetic.Faithful) (readsFaithfully : reading.Faithful)
    {number renumber : ℚ → ℚ} (parses : Faithful number)
    (reparses : Faithful renumber) {price : Numeric 10 2}
    (nonneg : 0 ≤ price.units) {quantity : ℤ} (positive : 1 ≤ quantity)
    (small : price.units * quantity < 10 ^ 12) :
    toCents arithmetic (decimalTransformerFrom number price) = price.units ∧
      (∀ printed, Within unitRoundoff
        (fromCents arithmetic (arithmetic.mul
          (toCents arithmetic (decimalTransformerFrom number price)) quantity))
        printed →
      ∃ stored : Numeric 12 2, Numeric.write 12 2 printed = .ok stored ∧
        stored.units = price.units * quantity ∧
        toCents reading (decimalTransformerFrom renumber stored) =
          price.units * quantity) ∧
      ∀ (dto : CreateOrderPayload) (movie : Catalog.Movie) (print : ℚ → ℚ)
        (id : ℤ) (now : Nat) (row : OrderRow),
        movie.ticketPrice = some (decimalTransformerFrom number price) →
        dto.quantity = quantity → Faithful print →
        OrderRow.build (inText print
          (OrdersService.newOrder arithmetic dto movie)) id now = .ok row →
          row.ticketPrice = price ∧
            row.totalPrice.units = price.units * quantity := by
  have product : 0 ≤ price.units * quantity :=
    mul_nonneg nonneg (by omega)
  have priceSmall : price.units < 10 ^ 12 := by
    have range := (abs_lt.mp price.inRange).2
    omega
  have cents := toCents_read faithful parses price nonneg priceSmall
  have stores : ∀ printed, Within unitRoundoff
      (fromCents arithmetic (arithmetic.mul price.units quantity)) printed →
      ∃ stored : Numeric 12 2, Numeric.write 12 2 printed = .ok stored ∧
        stored.units = price.units * quantity :=
    fun printed => write_fromCents faithful product small
  refine ⟨cents, ?_, ?_⟩
  · intro printed prints
    rw [cents] at prints
    obtain ⟨stored, written, units⟩ := stores printed prints
    refine ⟨stored, written, units, ?_⟩
    rw [toCents_read readsFaithfully reparses stored (by omega) (by omega),
      units]
    push_cast
    rfl
  · intro dto movie print id now row isPrice isQuantity prints built
    obtain ⟨_, _, _, _, _, ⟨shown, isShown, priceWritten⟩, _,
      ⟨total, isTotal, totalWritten⟩, _⟩ := OrderRow.build_eq_ok built
    simp only [inText, OrdersService.newOrder, isPrice, Option.map_some,
      Option.some.injEq] at isShown isTotal
    subst isShown isTotal
    rw [cents, isQuantity] at totalWritten
    constructor
    · have kept := write_read_printed parses prints price
        (by rwa [abs_of_nonneg nonneg])
      rw [priceWritten] at kept
      exact Except.ok.inj kept
    · obtain ⟨stored, written, units⟩ := stores _ (prints _)
      rw [totalWritten] at written
      cases written
      exact units

/-- Three tickets at 0.29: the double times 100 falls short of 29, and yet the
total is 0.87. -/
theorem totals_exact_example :
    let price : Numeric 10 2 := ⟨29, by decide⟩
    let amount := decimalTransformerFrom (toNearest 53) price
    Arithmetic.binary64.mul amount 100 < 29 ∧
      toCents .binary64 amount = 29 ∧
      (∃ stored : Numeric 12 2, Numeric.write 12 2 0.87 = .ok stored ∧
        stored.units = 87 ∧
        toCents .binary64 (decimalTransformerFrom (toNearest 53) stored) =
          87) ∧
      ∃ row : OrderRow, row.ticketPrice = price ∧
        row.totalPrice.units = 87 := by
  intro price amount
  let movie : Catalog.Movie := {
    id := some 1
    title := some "Alien"
    description := none
    releaseYear := some 1979
    durationMinutes := some 117
    ticketPrice := some amount
    createdAt := some 0
    updatedAt := some 0 }
  let dto : CreateOrderPayload := {
    movieId := 1
    quantity := 3
    userId := 7
    movieIdPositive := by decide
    quantityBounds := by decide
    userIdPositive := by decide }
  obtain ⟨cents, stores, creates⟩ := totals_exact Arithmetic.faithful_binary64
    Arithmetic.faithful_binary64 faithful_toNearest faithful_toNearest
    (by decide : 0 ≤ price.units) (by norm_num : (1 : ℤ) ≤ 3)
    (by norm_num [price])
  have prints : Within unitRoundoff (fromCents .binary64
      (Arithmetic.binary64.mul (toCents .binary64 amount) (3 : ℤ))) 0.87 := by
    unfold Within
    decide +kernel
  obtain ⟨stored, written, units, again⟩ := stores 0.87 prints
  have builds : (OrderRow.build (inText (toNearest 53)
      (OrdersService.newOrder .binary64 dto movie)) 1 0).isOk = true := by
    decide +kernel
  refine ⟨by decide +kernel, cents, ⟨stored, written, units, ?_⟩, ?_⟩
  · rw [again]
    norm_num [price]
  · cases built : OrderRow.build (inText (toNearest 53)
        (OrdersService.newOrder .binary64 dto movie)) 1 0 with
    | error error => simp [built, Except.isOk, Except.toBool] at builds
    | ok row =>
        exact ⟨row, creates dto movie (toNearest 53) 1 0 row rfl rfl
          faithful_toNearest built⟩

end Cinema.Orders
