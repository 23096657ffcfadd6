import StrategyDesk.Text.Basic

/-!
# Texts a strategy starts from

The strategy that a new editor shows, the module of tradable instruments that is generated for it,
and the places of both library modules in a sandbox.
-/

set_option autoImplicit false

namespace StrategyDesk.Library

def helperPath : String := "/helper-methods.ts"

def universePath : String := "/universe.ts"

/-- The strategy of a new editor. Its first two lines are the protected imports. -/
def startingStrategy : String :=
  String.intercalate "\n" [
    "import \x7b Mode, main \x7d from \"helper-methods\";",
    "import \x7b Instrument \x7d from \"universe\";",
    "",
    "export const entry = main.priceMinute() > main.priceMinute().trend.sma(200);",
    "export const exit = main.priceMinute() < main.priceMinute().trend.sma(200);",
    "",
    "export const universe = [Instrument.BTCUSDT, Instrument.ETHUSDT];",
    "",
    "export const name = \"strategy1\";",
    "",
    "export const start = new Date(2020, 1, 1);",
    "",
    "export const mode = Mode.Backtest;"]

def universeOpening : Text :=
  (String.intercalate "\n" [
    "",
    "declare module \"universe\" \x7b",
    "  /**",
    "   * @description",
    "   * Instruments available for backtesting.",
    "   *",
    "   * @example",
    "   * export const universe = [Instrument.BTCUSDT, Instrument.ETHUSDT];",
    "   */",
    "  export enum Instrument \x7b",
    "    "]).toList

def universeClosing : Text := "\n  \x7d\n\x7d\n".toList

def universeModule (tickers : List Text) : Text :=
  universeOpening ++ ", ".toList.intercalate tickers ++ universeClosing

end StrategyDesk.Library
