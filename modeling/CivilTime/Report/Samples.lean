import CivilTime.Batch.File

/-!
# Samples

The samples a report is made of : texts of fields, texts of date-times, and the numbers of
date-times, each with a name, and a small batch. Those that are refused stand apart from those that
are read.
-/

namespace CivilTime.Report

/-- The sample of the text of a field. -/
def fieldSample (id : String) (unit : CalendarUnit) (text : String) : Value :=
  .dict [("id", .str id), ("field", .str unit.name), ("text", .str text)]

/-- The sample of the text of a date-time. -/
def textSample (id text : String) : Value :=
  .dict [("id", .str id), ("text", .str text)]

/-- The sample of the numbers of a date-time. -/
def numberSample (id : String) (numbers : List Int) : Value :=
  .dict [("id", .str id), ("args", .list (numbers.map .int))]

/-- Texts of fields. -/
def readFields : Value :=
  .list [
    fieldSample "minute_zero" .minute "0",
    fieldSample "minute_padded" .minute "07",
    fieldSample "minute_max" .minute "60",
    fieldSample "month_plus_sign" .month "+9",
    fieldSample "day_max" .day "32",
    fieldSample "hour_max" .hour "24"]

/-- Texts that are refused for a field. -/
def refusedFields : Value :=
  .list [
    fieldSample "minute_overflow" .minute "99",
    fieldSample "month_overflow" .month "13",
    fieldSample "weekday_large" .weekDay "1000",
    fieldSample "letters" .month "XX",
    fieldSample "empty" .day "",
    fieldSample "negative" .hour "-1",
    fieldSample "whitespace" .second " 5",
    fieldSample "underscore" .second "1_0",
    fieldSample "non_ascii_digit" .day "\u0663"]

/-- Texts of date-times. -/
def readTexts : Value :=
  .list [
    textSample "release_day" "2020-09-24T13:21:00",
    textSample "october" "2020-10-14T13:21:00",
    textSample "first_instant" "0000-01-01T00:00:00",
    textSample "upper_bounds" "9999-12-32T24:60:60"]

/-- Texts that are refused for a date-time. -/
def refusedTexts : Value :=
  .list [
    textSample "month_letters" "2020-XX-24T13:21:00",
    textSample "year_letters" "20X0-09-24T13:21:00",
    textSample "second_letters" "2020-09-24T13:21:0a",
    textSample "month_overflow" "2020-14-24T13:21:00",
    textSample "minute_overflow" "2020-09-24T13:99:00",
    textSample "month_zero" "2020-00-24T13:21:00",
    textSample "day_zero" "2020-09-00T13:21:00",
    textSample "too_short" "2020-09-24",
    textSample "empty" "",
    textSample "too_long" "2020-09-24T13:21:00Z",
    textSample "space_separator" "2020-09-24 13:21:00",
    textSample "slash_date" "2020/09/24T13:21:00",
    textSample "dot_time" "2020-09-24T13.21.00"]

/-- Numbers of date-times. -/
def builtNumbers : Value :=
  .list [
    numberSample "release_day" [2020, 9, 24, 13, 21, 0],
    numberSample "all_zero" [0, 0, 0, 0, 0, 0],
    numberSample "all_max" [9999, 12, 32, 24, 60, 60],
    numberSample "year_unbounded" [123456, 1, 1, 0, 0, 0]]

/-- Numbers that are refused for a date-time. -/
def refusedNumbers : Value :=
  .list [
    numberSample "month_only" [2020, 13, 1, 0, 0, 0],
    numberSample "day_only" [2020, 1, 33, 0, 0, 0],
    numberSample "hour_only" [2020, 1, 1, 25, 0, 0],
    numberSample "minute_only" [2020, 1, 1, 0, 61, 0],
    numberSample "second_only" [2020, 1, 1, 0, 0, 61],
    numberSample "month_before_day" [2020, 13, 33, 25, 61, 61],
    numberSample "day_before_hour" [2020, 1, 33, 25, 61, 61],
    numberSample "hour_before_minute" [2020, 1, 1, 25, 61, 61],
    numberSample "minute_before_second" [2020, 1, 1, 1, 61, 61]]

/-- The samples of fields. -/
def fieldSamples : Value :=
  .dict [("parse", readFields), ("parse_errors", refusedFields)]

/-- The samples of date-times. -/
def dateTimeSamples : Value :=
  .dict [("parse", readTexts), ("parse_errors", refusedTexts), ("try_new", builtNumbers),
    ("try_new_errors", refusedNumbers)]

/-- A batch of date-times. -/
def batchSample : Value :=
  .dict [(Batch.wrapperKey, .dict [
    ("release", .str "2020-09-24T13:21:00"),
    ("followup", .str "2020-10-14T13:21:00"),
    ("midnight", .str "2021-01-01T00:00:00")])]

end CivilTime.Report
