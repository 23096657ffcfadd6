/-!
# The helper module

The declarations that strategies import from `helper-methods`: price sources, indicators,
combinators and the modes of a strategy, each with its documentation.
-/

set_option autoImplicit false
set_option maxRecDepth 4000

namespace StrategyDesk.Library

def helperMethods : String :=
  String.intercalate "\n" [
    "declare module \"helper-methods\" \x7b",
    "  type ArrayOp = \x7b",
    "    /**",
    "     * @description",
    "     * Adds two time series element by element.",
    "     *",
    "     * @example",
    "     * Price plus its moving average",
    "     * const combined = main.priceMinute().arrayOp.add(main.priceMinute().trend.sma(20));",
    "     */",
    "    add(other: Timeseries): Timeseries;",
    "",
    "    /**",
    "     * @description",
    "     * Subtracts another time series element by element.",
    "     *",
    "     * @example",
    "     * Spread between price and its moving average",
    "     * const spread = main.priceMinute().arrayOp.subtract(main.priceMinute().trend.sma(20));",
    "     */",
    "    subtract(other: Timeseries): Timeseries;",
    "",
    "    /**",
    "     * @description",
    "     * Divides by another time series element by element.",
    "     *",
    "     * @example",
    "     * Ratio of price to its moving average",
    "     * const ratio = main.priceMinute().arrayOp.divide(main.priceMinute().trend.sma(20));",
    "     */",
    "    divide(other: Timeseries): Timeseries;",
    "",
    "    /**",
    "     * @description",
    "     * Multiplies two time series element by element.",
    "     *",
    "     * @example",
    "     * Scale an indicator by a constant weight",
    "     * const scaled = main.priceMinute().arrayOp.multiply(main.constant(2));",
    "     */",
    "    multiply(other: Timeseries): Timeseries;",
    "  \x7d",
    "",
    "  type Oscillator = \x7b",
    "    trix(period: number): Timeseries;",
    "    bollingerBands(period: number): Timeseries;",
    "    absoluteMomentum(period: number): Timeseries;",
    "    relativeMomentum(period: number): Timeseries;",
    "    /**",
    "     * @description",
    "     * Relative Strength Index, ranging from 0 to 100.",
    "     * - above 70: overbought",
    "     * - below 30: oversold",
    "     *",
    "     * @example",
    "     * 14-period RSI on minute and daily prices",
    "     * const rsiMinute = main.priceMinute().oscillator.rsi(14);",
    "     * const rsiDay = main.priceDay().oscillator.rsi(14);",
    "     */",
    "    rsi(period: number): Timeseries;",
    "    chandeMomentumOsc(period: number): Timeseries;",
    "    absolutePriceOsc(fast: number, slow: number): Timeseries;",
    "    percentagePriceOsc(fast: number, slow: number): Timeseries;",
    "    macd(signal: number, fast: number, slow: number): Timeseries;",
    "    stochasticRsi(period: number, k: number, d: number): Timeseries;",
    "    mamaFast(): Timeseries;",
    "    mamaSlow(): Timeseries;",
    "  \x7d",
    "",
    "  type TrendIndicators = \x7b",
    "    /**",
    "     * @description",
    "     * Simple moving average over the given number of points.",
    "     *",
    "     * @example",
    "     * Enter when price is above its 20-period average",
    "     * const entry = main.priceMinute() > main.priceMinute().trend.sma(20);",
    "     */",
    "    sma(period: number): Timeseries;",
    "",
    "    /**",
    "     * @description",
    "     * Exponential moving average, weighting recent points more heavily.",
    "     *",
    "     * @example",
    "     * const entry = main.priceMinute() > main.priceMinute().trend.ema(14);",
    "     */",
    "    ema(period: number): Timeseries;",
    "",
    "    /**",
    "     * @description",
    "     * Linearly weighted moving average.",
    "     *",
    "     * @example",
    "     * const entry = main.priceMinute() > main.priceMinute().trend.wma(20);",
    "     */",
    "    wma(period: number): Timeseries;",
    "",
    "    /**",
    "     * @description",
    "     * Double exponential moving average.",
    "     *",
    "     * @example",
    "     * const entry = main.priceMinute() > main.priceMinute().trend.dema(20);",
    "     */",
    "    dema(period: number): Timeseries;",
    "",
    "    /**",
    "     * @description",
    "     * Kaufman adaptive moving average.",
    "     *",
    "     * @example",
    "     * const entry = main.priceMinute() > main.priceMinute().trend.kama(10);",
    "     */",
    "    kama(period: number): Timeseries;",
    "",
    "    /**",
    "     * @description",
    "     * Triple exponential moving average.",
    "     *",
    "     * @example",
    "     * const entry = main.priceMinute() > main.priceMinute().trend.tema(20);",
    "     */",
    "    tema(period: number): Timeseries;",
    "",
    "    /**",
    "     * @description",
    "     * Tillson T3 moving average.",
    "     *",
    "     * @example",
    "     * const entry = main.priceMinute() > main.priceMinute().trend.t3(10);",
    "     */",
    "    t3(period: number): Timeseries;",
    "",
    "    /**",
    "     * @description",
    "     * Triangular moving average.",
    "     *",
    "     * @example",
    "     * const entry = main.priceMinute() > main.priceMinute().trend.trima(20);",
    "     */",
    "    trima(period: number): Timeseries;",
    "",
    "    /**",
    "     * @description",
    "     * Midpoint of the highest and lowest value over the period.",
    "     *",
    "     * @example",
    "     * const entry = main.priceMinute().trend.midpointOverPeriod(14) > main.priceMinute();",
    "     */",
    "    midpointOverPeriod(period: number): Timeseries;",
    "",
    "    /**",
    "     * @description",
    "     * The series shifted back by the given number of periods.",
    "     *",
    "     * @example",
    "     * Enter when price is higher than 5 minutes ago",
    "     * export const entry = main.priceMinute() > main.priceMinute().trend.lag(5);",
    "     */",
    "    lag(period: number): Timeseries;",
    "",
    "    /**",
    "     * @description",
    "     * Hilbert transform instantaneous trendline.",
    "     *",
    "     * @example",
    "     * const entry = main.priceMinute() > main.priceMinute().trend.htTrendline();",
    "     */",
    "    htTrendline(): Timeseries;",
    "  \x7d",
    "",
    "  type Timeseries = \x7b",
    "    /**",
    "     * @description",
    "     * Price-adjusting indicators, usually compared with raw price.",
    "     */",
    "    trend: TrendIndicators;",
    "",
    "    /**",
    "     * @description",
    "     * Oscillators around 0; some are range bound (rsi between 0 and 100).",
    "     */",
    "    oscillator: Oscillator;",
    "",
    "    /**",
    "     * @description",
    "     * Element-wise operations on two series.",
    "     */",
    "    arrayOp: ArrayOp;",
    "  \x7d",
    "",
    "  export const main: \x7b",
    "    /**",
    "     * @description",
    "     * Instrument price, updated every minute.",
    "     */",
    "    priceMinute(): Timeseries;",
    "",
    "    /**",
    "     * @description",
    "     * Instrument price, updated once per day (UTC).",
    "     */",
    "    priceDay(): Timeseries;",
    "",
    "    /**",
    "     * @description",
    "     * Constant series, useful against range bound indicators.",
    "     *",
    "     * @example",
    "     * const entry = main.priceMinute().oscillator.rsi(14) < main.constant(30);",
    "     */",
    "    constant(value: number): Timeseries;",
    "  \x7d;",
    "",
    "  export enum Freq \x7b",
    "    Minute = 0,",
    "    Day = 1,",
    "  \x7d",
    "",
    "  /**",
    "   * @description Indicator type.",
    "   */",
    "  export enum Type \x7b",
    "    Price = 0,",
    "  \x7d",
    "",
    "  /**",
    "   * @description",
    "   * How the strategy runs.",
    "   * - Live: from now on, updated every minute",
    "   * - Backtest: from the declared start until today",
    "   */",
    "  enum Mode \x7b",
    "    Live = 0,",
    "    Backtest = 1,",
    "  \x7d",
    "\x7d",
    ""]

end StrategyDesk.Library
