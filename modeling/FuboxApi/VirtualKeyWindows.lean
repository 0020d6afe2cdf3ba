import FuboxApi.KeyedTables
import FuboxApi.PaidReserves
import FuboxApi.ProviderKeySql

/-!
# The limits of a virtual key

Only the four statements below write the window of a virtual key: a counter is an integer or absent.
Each is one atomic update of the row; the one for tokens is aborted by a sum that is no `bigint`.
-/

namespace FuboxApi

structure VirtualKeyWindow where
  concurrencyUsed : Option Int
  rpmWindow : Option Int
  rpmUsed : Option Int
  tpmWindow : Option Int
  tpmUsed : Option Int

/-- A virtual key; `paidHotPathBetaEnabled` is what its metadata says about the
paid path. -/
structure VirtualKeyRow where
  id : Uuid
  tenantId : Uuid
  active : Bool
  deletedAt : Option Nat
  paidHotPathBetaEnabled : Bool
  window : VirtualKeyWindow

abbrev VirtualKeyTable := KeyedTable VirtualKeyRow.id

namespace VirtualKeyRow

variable (tenantId : Uuid) (row : VirtualKeyRow)

def isPresent (tenantId : Uuid) : Bool :=
  row.tenantId = tenantId && row.deletedAt.isNone

def concurrencyUsed : Int :=
  row.window.concurrencyUsed.getD 0

def acquireConcurrencySlot (limit : Int32) (row : VirtualKeyRow) : Option VirtualKeyRow :=
  if row.isPresent tenantId && row.active && row.concurrencyUsed < limit.toInt then
    some { row with
      window := { row.window with concurrencyUsed := some (row.concurrencyUsed + 1) } }
  else none

def releaseConcurrencySlot : Option VirtualKeyRow :=
  if row.isPresent tenantId then
    some { row with
      window := { row.window with concurrencyUsed := some (max (row.concurrencyUsed - 1) 0) } }
  else none

def rpmWindow : Int :=
  row.window.rpmWindow.getD (-1)

def rpmUsed : Int :=
  row.window.rpmUsed.getD 0

def acquireRpmSlot (limit : Int32) (minuteBucket : Int) (row : VirtualKeyRow) :
    Option VirtualKeyRow :=
  if row.isPresent tenantId && row.active &&
      (row.rpmWindow ≠ minuteBucket || row.rpmUsed < limit.toInt) then
    some { row with
      window := { row.window with
        rpmWindow := some minuteBucket
        rpmUsed := some (if row.rpmWindow = minuteBucket then row.rpmUsed + 1 else 1) } }
  else none

def tpmWindow : Int :=
  row.window.tpmWindow.getD (-1)

def tpmUsed : Int :=
  row.window.tpmUsed.getD 0

/-- The tokens of the minute with those of the request. -/
def tpmTotal (minuteBucket : Int) (requiredTokens : Int64) : Except SqlError Int :=
  if row.tpmWindow = minuteBucket then addBigint row.tpmUsed requiredTokens.toInt
  else .ok requiredTokens.toInt

def acquireTpmCapacity (limit : Int32) (requiredTokens : Int64) (minuteBucket : Int)
    (row : VirtualKeyRow) : Except SqlError (Option VirtualKeyRow) :=
  if row.isPresent tenantId && row.active && 0 < requiredTokens then do
    let total ← row.tpmTotal minuteBucket requiredTokens
    return if total ≤ limit.toInt then
      some { row with
        window := { row.window with tpmWindow := some minuteBucket, tpmUsed := some total } }
    else none
  else .ok none

end VirtualKeyRow

end FuboxApi
