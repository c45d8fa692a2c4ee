/-! Settings of a workbook. -/

namespace Workbook

structure Settings where
  /-- How long, in milliseconds, a generator is left alone about one block. -/
  throttleDelay : Nat := 5000
  maxBlocks : Nat := 512
  idLength : Nat := 8
  maxIdAttempts : Nat := 64
deriving DecidableEq, Repr

end Workbook
