import AlertBridge.Slack.Unit

/-!
# Units packed into messages

Consecutive plain units share a message as long as it has fewer than a given number of units and
its blocks, with the one that makes the mentions, are no more than Slack takes. A table has a
message of its own. `batches` cuts the list of units; `batchMessage` is the message of a piece.

Main statement: the pieces joined are the list of units.
-/

namespace AlertBridge.Slack

/-- The most blocks of a message. -/
def maxBlocks : Nat := 50

/-- The number of blocks that units need in one message: theirs, and one that makes mentions. -/
def blockCount (units : List MessageUnit) : Nat :=
  (units.flatMap MessageUnit.blocks).length
    + (if (units.flatMap MessageUnit.mentions).isEmpty then 0 else 1)

/-- A message with some units has room for one more. -/
def fits (limit : Int) (batch : List MessageUnit) (unit : MessageUnit) : Bool :=
  batch.length < limit && blockCount (batch ++ [unit]) ≤ maxBlocks

/-- The units cut into pieces, one for each message, where `batch` is the open piece, if any. -/
def batchesFrom (limit : Int) (batch : Option (List MessageUnit)) :
    List MessageUnit → List (List MessageUnit)
  | [] => batch.toList
  | .table status blocks :: rest =>
    batch.toList ++ [.table status blocks] :: batchesFrom limit none rest
  | unit :: rest =>
    let units := batch.getD []
    if fits limit units unit then batchesFrom limit (some (units ++ [unit])) rest
    else units :: batchesFrom limit (some [unit]) rest

/-- The units cut into pieces, one for each message. -/
def batches (limit : Int) (units : List MessageUnit) : List (List MessageUnit) :=
  batchesFrom limit none units

theorem flatten_batchesFrom (limit : Int) (batch : Option (List MessageUnit))
    (units : List MessageUnit) :
    (batchesFrom limit batch units).flatten = batch.getD [] ++ units := by
  fun_induction batchesFrom limit batch units with
  | case1 batch => cases batch <;> simp
  | case2 batch status blocks rest ih => cases batch <;> simp [ih]
  | case3 => simp_all; rfl
  | case4 => simp_all; rfl

/-- No unit is lost, made twice or moved. -/
theorem flatten_batches (limit : Int) (units : List MessageUnit) :
    (batches limit units).flatten = units := by
  simp [batches, flatten_batchesFrom]

/-- The blocks of the message of some units: theirs, and the one that makes their mentions, each
once. -/
def batchBlocks (units : List MessageUnit) : List Json :=
  units.flatMap MessageUnit.blocks ++ mentionBlocks (dedup (units.flatMap MessageUnit.mentions))

/-- The blocks of each message. -/
def packUnits (limit : Int) (units : List MessageUnit) : List (List Json) :=
  (batches limit units).map batchBlocks

end AlertBridge.Slack
