import LearningDemo.PartionFacts
import LearningDemo.QuickSortFacts
import LearningDemo.MergeFacts
import LearningDemo.StackFacts
import LearningDemo.ClearFacts
import LearningDemo.ReversePrintFacts
import LearningDemo.CircleFacts
import LearningDemo.CustomFlowLayoutFacts
import LearningDemo.NetworkCancelFacts
import LearningDemo.NetworkFailureFacts
import LearningDemo.NetworkPostFacts
import LearningDemo.CrossFacts
import LearningDemo.AlgoTable
import LearningDemo.CountDigitOneFacts
import LearningDemo.CountDigitOneRangeFacts
import LearningDemo.Lib.Pairs
import LearningDemo.SingleNumbersFacts
import LearningDemo.Lib.CString
import LearningDemo.StringArray
import LearningDemo.ReplaceBlankFacts
import LearningDemo.MergeArrayFacts
import LearningDemo.ConstructFacts
import LearningDemo.ConstructTotalFacts
import LearningDemo.StringToInt
import LearningDemo.StringToIntFacts
import LearningDemo.StringToIntGrammarFacts
import LearningDemo.Lib.RetainCount
import LearningDemo.MRCObject
import LearningDemo.MRCObjectFacts
import LearningDemo.InvertFacts
import LearningDemo.NNAdd
import LearningDemo.GroupSelectorHeader
import LearningDemo.GroupSelectorHeaderFacts
import LearningDemo.GroupSelectorScrollFacts
import LearningDemo.BeautyGroupSelectorFacts
import LearningDemo.FileMD5Facts
import LearningDemo.LimitStringFacts
import LearningDemo.ClipFitFacts
import LearningDemo.NodePositionFacts
import LearningDemo.CustomFlowLayoutShortestFacts
import LearningDemo.CustomFlowLayoutQueryFacts
import LearningDemo.CustomFlowLayoutContentFacts
import LearningDemo.StaircaseFacts
import LearningDemo.SmalletItemFacts
import LearningDemo.SmalletBisectionFacts
import LearningDemo.SortAgesFacts
import LearningDemo.NetworkQueryFacts
import LearningDemo.NetworkUrlFacts
import LearningDemo.Lib.Fibonacci
import LearningDemo.FibonacciFacts
import LearningDemo.FZVideoSource
import LearningDemo.StickerWidget
import LearningDemo.StickerWidgetFacts
import LearningDemo.YXLiveRoomView
import LearningDemo.YXLiveRoomViewFacts
import LearningDemo.Lib.Blocks
import LearningDemo.Lib.Gregorian
import LearningDemo.Lib.Memo
import LearningDemo.LunarTables
import LearningDemo.LunarCore
import LearningDemo.LunarYearFacts
import LearningDemo.LunarDateFacts
import LearningDemo.LunarRoundTripFacts
import LearningDemo.LunarCacheFacts
import LearningDemo.LunarNameFacts
import LearningDemo.LunarFestivalFacts
import LearningDemo.LunarCalendarFacts
import LearningDemo.Lib.Overwrite
import LearningDemo.HookCMethod
import LearningDemo.HookCMethodFacts
import LearningDemo.Lib.Nearest
import LearningDemo.BSBacktraceLogger
import LearningDemo.BSBacktraceLoggerFacts
import LearningDemo.CFURL
import LearningDemo.CFURLFacts
import LearningDemo.CFURLRoundTripFacts
