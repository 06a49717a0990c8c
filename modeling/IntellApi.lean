import IntellApi.SessionsSound
import IntellApi.ReportPeriodsSound
import IntellApi.ReportsBacked
import IntellApi.AlertDetectionSound
import IntellApi.InverterAccessSound
import IntellApi.TeamAccessSound
import IntellApi.MetricsSound
import IntellApi.SavingsSound
import IntellApi.SessionsCap
import IntellApi.InstallersSound
import IntellApi.MetricsPollerSound
import IntellApi.PolledInvertersSound
import IntellApi.MetricsPubSubSound
import IntellApi.MetricEventsSound
import IntellApi.MetricsStreamReadings
import IntellApi.UploadedReportsSound
import IntellApi.UploadedReportsDeletion
import IntellApi.AlertDetectionJobs
import IntellApi.ReportSeries
import IntellApi.ReportSeriesWindows
import IntellApi.AlertDispatchSound
import IntellApi.SessionsActive
import IntellApi.EmailVerificationSound
import IntellApi.PasswordResetSound
import IntellApi.QuietHours
import IntellApi.TeamAccessReInvites
import IntellApi.FeedbackServiceSound
import IntellApi.UploadedReportsCounter
import IntellApi.InvertersConnected
import IntellApi.MetricsPollsSound
import IntellApi.ChatbotSound
import IntellApi.ControlTraffic
import IntellApi.MissingBattery
import IntellApi.AlertLog
import IntellApi.OfflineAlerts
import IntellApi.PollCalls
import IntellApi.FallbackService
import IntellApi.LagosDays
import IntellApi.PeriodRanges
import IntellApi.SavingsAgreement
import IntellApi.ReportDates
import IntellApi.MetricsTotals
import IntellApi.DepletionInsights
import IntellApi.SolarReports
import IntellApi.AlertReader
import IntellApi.ReportRetries
import IntellApi.DominantAlerts
import IntellApi.StepTable
import IntellApi.FuelRates
import IntellApi.HealthSound
import IntellApi.DeviceTokens
import IntellApi.UsageEvents
import IntellApi.InviteMails
import IntellApi.Base64
import IntellApi.SunsynkCredentials
import IntellApi.ProfileImages
import IntellApi.ProfileImagesSound
import IntellApi.JsText
import IntellApi.InverterAdapters
import IntellApi.MockInverterServer
import IntellApi.MockInverterServerSound
import IntellApi.MockInverterOverrides
import IntellApi.InverterAdaptersSound
import IntellApi.Accounts
import IntellApi.AccountsSound
import IntellApi.ChatGateway
import IntellApi.ChatGatewaySound
import IntellApi.ChatGatewayRooms
import IntellApi.AccountRoles
import IntellApi.Purge
import IntellApi.AgentTools
import IntellApi.AgentToolsSound
import IntellApi.PersonalSettings
import IntellApi.PersonalSettingsSound
import IntellApi.JobRelay
import IntellApi.ReportMails
import IntellApi.ReportMailsSound
import IntellApi.ReportMailsOwner
import IntellApi.SavingsCopies
import IntellApi.VerifiedSystems
