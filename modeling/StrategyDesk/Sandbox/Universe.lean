/-!
# The universe of instruments

The instruments that strategies may trade, as the backend lists them.
-/

set_option autoImplicit false

namespace StrategyDesk

structure Instrument where
  ticker : String
deriving DecidableEq, Repr

def tickers (instruments : List Instrument) : List String := instruments.map Instrument.ticker

end StrategyDesk
